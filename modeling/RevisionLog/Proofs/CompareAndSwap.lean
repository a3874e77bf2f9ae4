import RevisionLog.Proofs.Opening
import RevisionLog.Proofs.StoreKeeping

/-!
# Compare-and-swap

Clients contend for the names of a log that is not swept. Each reads the latest record of a name,
and later writes what follows it, while others do the same in between. `Contest.run` takes their
moves in any order, and `Contest.compareAndSwap` says who wins: a write succeeds if what its client
has read is still the latest record and the row is not too long, and is refused without a trace
otherwise. So the versions of every key form one chain.

The invariant is that what a client has read is what an end of the history has last
(`Contest.Kept`).
-/

namespace RevisionLog

/-- What a client has read: the latest record of a name at that moment, or that there was none. -/
structure Sight where
  name : String
  seen : Option Record
deriving DecidableEq, Repr

/-- A move of a client, or of the keeper of the watermark. -/
inductive Move (κ : Type)
  /-- The client reads the latest record of a name. -/
  | read (client : κ) (name : String)
  /-- The client writes what follows the record that it read last. -/
  | write (client : κ) (change : Change) (lease : Option Int)
  | setCompactRevision (revision : Int)

/-- A store, and what each client has read last. -/
structure Contest (κ : Type) where
  store : Store
  sights : κ → Option Sight := fun _ => none

namespace Contest

open History

variable {κ : Type}

/-- The contest after a move. -/
def take [DecidableEq κ] (m : Contest κ) : Move κ → Contest κ
  | .read client name =>
    let sight := ⟨name, m.store.latest name⟩
    { m with sights := Function.update m.sights client (some sight) }
  | .write client change lease =>
    match (m.sights client).bind fun sight => change.draft? sight.name sight.seen lease with
    | none => m
    | some d => { m with store := (m.store.insert d).2 }
  | .setCompactRevision revision => { m with store := (m.store.setCompactRevision revision).2 }

/-- The contest for a store by moves, one after another. -/
def run [DecidableEq κ] (s : Store) (moves : List (Move κ)) : Contest κ :=
  moves.foldl take { store := s }

/-- What a client has read after another read, or the same one. -/
theorem sights_read [DecidableEq κ] {m : Contest κ} {client client' : κ} {name : String}
    {sight : Sight} (h : (m.take (.read client name)).sights client' = some sight) :
    sight = ⟨name, m.store.latest name⟩ ∨ m.sights client' = some sight := by
  simp only [take, Function.update_apply] at h
  split at h
  · exact .inl (Option.some.inj h).symm
  · exact .inr h

/-- The store keeps a history that nothing is swept of, and what each client has read is what an end
of it has last. -/
structure Kept (K : String → Prop) (m : Contest κ) (past : List Record) (spent : Nat) : Prop where
  store : m.store.Keeps K past 0 spent
  named : ∀ client sight, m.sights client = some sight →
    ∀ r, sight.seen = some r → r.name = sight.name
  sights : ∀ client sight, m.sights client = some sight → K sight.name →
    ∃ old, old <:+ past ∧ sight.seen = (latest old sight.name).map Record.resolved

namespace Kept

variable {K : String → Prop} {m : Contest κ} {past : List Record} {spent : Nat}

/-- What a client has read is the latest record exactly if the history still ends with it. -/
theorem latest_eq_iff (h : m.Kept K past spent) {name : String} (hn : K name) {old : List Record}
    (hold : old <:+ past) : m.store.latest name = (latest old name).map Record.resolved ↔
      latest past name = latest old name := by
  rw [h.store.latest_unswept hn]
  constructor
  · intro he
    cases hp : latest past name with
    | none =>
      rw [hp] at he
      cases ho : latest old name with
      | none => rfl
      | some a => rw [ho] at he; cases he
    | some l =>
      rw [hp] at he
      obtain ⟨a, ha, hal⟩ := Option.map_eq_some_iff.1 he.symm
      have hid : a.id = l.id := by simpa using congrArg Record.id hal
      rw [ha, h.store.written.eq_of_id (hold.subset (latest_mem ha).1) (latest_mem hp).1 hid]
  · exact fun he => by rw [he]

/-- A draft built from what a client has read: it continues the history if that is still the latest
record, and a record names the same one if not. -/
theorem draft_sight (h : m.Kept K past spent) {client : κ} {sight : Sight}
    (hs : m.sights client = some sight) (hK : K sight.name) {change : Change} {lease : Option Int}
    {d : Draft} (hd : change.draft? sight.name sight.seen lease = some d) :
    d.name = sight.name ∧
      (m.store.latest sight.name = sight.seen →
        (∀ id, Continues 0 (latest past d.name) (d.stored id)) ∧
        ∀ b ∈ remaining 0 past d.name, b.prevRevision ≠ d.prevRevision) ∧
      (m.store.latest sight.name ≠ sight.seen →
        ∃ b ∈ remaining 0 past d.name, b.prevRevision = d.prevRevision) := by
  have hname := Change.draft?_name (h.named client sight hs) hd
  obtain ⟨old, hold, hseen⟩ := h.sights client sight hs hK
  have hp := Change.draft?_prevRevision hd
  have hw := h.store.written
  have hiff := h.latest_eq_iff hK hold
  rw [hseen] at hd hp ⊢
  rw [hname]
  refine ⟨rfl, fun he => ⟨fun id => ?_, fun b hb => ?_⟩, fun hne => ?_⟩
  · rw [hiff.1 he]
    exact Change.continues hd 0 id
  · obtain ⟨hb, hbn, -⟩ := mem_remaining.1 hb
    obtain ⟨l, hl⟩ := exists_latest hb
    rw [hbn] at hl
    have hpl : d.prevRevision = l.id := by simp [hp, ← hiff.1 he, hl]
    rw [hpl]
    exact hw.prevRevision_ne_latest hl hb
  · obtain ⟨b, hb, hbn, hbp⟩ := hw.named_of_superseded hold fun he => hne (hiff.2 he)
    have hpos := hw.pos b hb
    refine ⟨b, mem_remaining.2 ⟨hb, hbn, remains_iff.2 (.inl hpos)⟩, ?_⟩
    rw [hbp, hp, Option.map_map]
    rfl

/-- A draft of what a client has read goes where it belongs, or leaves no trace. -/
theorem insert (h : m.Kept K past spent) (hK : ∀ n, n ≠ sentinelName → K n) {client : κ}
    {sight : Sight} (hs : m.sights client = some sight) {change : Change} {lease : Option Int}
    {d : Draft} (hd : change.draft? sight.name sight.seen lease = some d) :
    ∃ past', past <:+ past' ∧ (m.store.insert d).2.Keeps K past' 0 (spent + 1) := by
  by_cases hn : K sight.name
  · obtain ⟨hname, hfresh, hstale⟩ := h.draft_sight hs hn hd
    have hdn : K d.name := hname ▸ hn
    by_cases he : m.store.latest sight.name = sight.seen
    · rcases h.store.insert hdn (hfresh he).1 with ⟨id, s', hok, hk⟩ | ⟨e, herr⟩
      · exact ⟨_, List.suffix_cons _ _, by rw [hok]; exact hk⟩
      · exact ⟨past, List.suffix_rfl, by rw [herr]; exact h.store.mono (Nat.le_succ spent)⟩
    · obtain ⟨e, herr⟩ := h.store.insert_taken hdn (hstale he)
      exact ⟨past, List.suffix_rfl, by rw [herr]; exact h.store.mono (Nat.le_succ spent)⟩
  · have hsent : sight.name = sentinelName := by
      by_contra hne
      exact hn (hK _ hne)
    have hdn : d.name = sentinelName :=
      (Change.draft?_name (h.named client sight hs) hd).trans hsent
    exact ⟨past, List.suffix_rfl, h.store.insert_aside (hsent ▸ hn) hdn⟩

/-- A store that keeps more of the history serves the same sights. -/
theorem withStore (h : m.Kept K past spent) {past' : List Record} (hsuffix : past <:+ past')
    {s : Store} {more : Nat} (hs : s.Keeps K past' 0 more) :
    ({ m with store := s } : Contest κ).Kept K past' more where
  store := hs
  named := h.named
  sights := fun client sight hsight hn =>
    let ⟨old, hold, hseen⟩ := h.sights client sight hsight hn
    ⟨old, hold.trans hsuffix, hseen⟩

/-- A client reads what the history ends with. -/
theorem read [DecidableEq κ] (h : m.Kept K past spent) (client : κ) (name : String) :
    (m.take (.read client name)).Kept K past spent where
  store := h.store
  named := fun client' sight hsight r hr => by
    rcases sights_read hsight with rfl | hsight
    · exact (h.store.mem_versions_iff.1 (List.mem_of_getLast? hr)).2
    · exact h.named client' sight hsight r hr
  sights := fun client' sight hsight hn => by
    rcases sights_read hsight with rfl | hsight
    · exact ⟨past, List.suffix_rfl, h.store.latest_unswept hn⟩
    · exact h.sights client' sight hsight hn

/-- A move passes the invariant on. -/
theorem take [DecidableEq κ] (h : m.Kept K past spent) (hK : ∀ n, n ≠ sentinelName → K n)
    (move : Move κ) (hmark : ∀ revision, move = .setCompactRevision revision → ¬ K sentinelName) :
    ∃ past', (m.take move).Kept K past' (spent + 1) := by
  cases move with
  | read client name =>
    have hr := h.read client name
    exact ⟨past, hr.withStore List.suffix_rfl (hr.store.mono (Nat.le_succ spent))⟩
  | write client change lease =>
    simp only [Contest.take]
    split
    · exact ⟨past, h.withStore List.suffix_rfl (h.store.mono (Nat.le_succ spent))⟩
    · rename_i d hd
      obtain ⟨sight, hs, hd⟩ := Option.bind_eq_some_iff.1 hd
      obtain ⟨past', hsuffix, hk⟩ := h.insert hK hs hd
      exact ⟨past', h.withStore hsuffix hk⟩
  | setCompactRevision revision =>
    exact ⟨past, h.withStore List.suffix_rfl
      (h.store.setCompactRevision (hmark revision rfl) revision)⟩

/-- Moves pass the invariant on. -/
theorem foldl [DecidableEq κ] (h : m.Kept K past spent) (hK : ∀ n, n ≠ sentinelName → K n)
    (moves : List (Move κ))
    (hmark : ∀ revision, .setCompactRevision revision ∈ moves → ¬ K sentinelName) :
    ∃ past', (moves.foldl Contest.take m).Kept K past' (spent + moves.length) := by
  induction moves generalizing m past spent with
  | nil => exact ⟨past, h⟩
  | cons move moves ih =>
    obtain ⟨past', h'⟩ := h.take hK move fun revision he => hmark revision (he ▸ .head _)
    have := ih h' fun revision hr => hmark revision (.tail _ hr)
    rwa [Nat.add_right_comm, Nat.add_assoc, ← List.length_cons] at this

end Kept

/-- After any moves on an empty log the contest is kept. The sentinel's name is a name like others
as long as no watermark is put under it. -/
theorem kept_run [DecidableEq κ] {s : Store} (hs : s.IsEmpty) (moves : List (Move κ)) :
    ∃ past, (run s moves).Kept
      (fun n => n ≠ sentinelName ∨ ∀ revision, .setCompactRevision revision ∉ moves) past
      moves.length := by
  have h : ({ store := s } : Contest κ).Kept
      (fun n => n ≠ sentinelName ∨ ∀ revision, .setCompactRevision revision ∉ moves) [] 0 :=
    ⟨hs.keeps _, by simp, by simp⟩
  obtain ⟨past, h⟩ := h.foldl (fun _ => .inl) moves fun revision hr hn =>
    hn.elim (· rfl) fun hnone => hnone revision hr
  exact ⟨past, by simpa only [run, Nat.zero_add] using h⟩

/-- A write of a client succeeds exactly if what it has read is still the latest record of the name,
and is refused as a lost compare-and-swap otherwise; the versions of every key form one chain. The
engine sets two limits to this. It has 2^63 - 1 ids; and it takes rows of up to 1,000,000,000 bytes.
A row has at least 10 bytes beside its name and values and at most 74, and a write whose row is too
long is refused as such, without a trace. -/
theorem compareAndSwap [DecidableEq κ] {s : Store} (hs : s.IsEmpty) (moves : List (Move κ)) :
    ((moves.length : Int) < maxInt → (run s moves).store.HasRoom) ∧
    ((run s moves).store.HasRoom → ∀ client sight, (run s moves).sights client = some sight →
      sight.name ≠ sentinelName ∨ (∀ revision, .setCompactRevision revision ∉ moves) →
      ∀ change lease d, Change.draft? change sight.name sight.seen lease = some d →
        (¬ (run s moves).store.RefusesLength d →
          ((∃ id s', (run s moves).store.insert d = (.ok id, s')) ↔
            (run s moves).store.latest sight.name = sight.seen) ∧
          ((run s moves).store.latest sight.name ≠ sight.seen → (run s moves).store.Refuses d)) ∧
        (d.bytes + 74 ≤ lengthLimit → ¬ (run s moves).store.RefusesLength d) ∧
        (lengthLimit < d.bytes + 10 → (run s moves).store.latest sight.name = sight.seen →
          (run s moves).store.RefusesLength d)) ∧
    ∀ key : Key,
      (∀ r, ((run s moves).store.versions key.name).head? = some r → r.prevRevision = 0) ∧
      ((run s moves).store.versions key.name).IsChain fun a b =>
        a.id < b.id ∧ b.prevRevision = a.id := by
  obtain ⟨past, h⟩ := kept_run hs moves
  refine ⟨h.store.hasRoom, fun hroom client sight hsight hn change lease d hd => ?_,
    fun key => ⟨fun r hr => ?_, h.store.versions_chain (.inl key.ordinary)⟩⟩
  · obtain ⟨hname, hfresh, hstale⟩ := h.draft_sight hsight hn hd
    have hdn := hname ▸ hn
    refine ⟨fun hlong => ?_, h.store.not_refusesLength hroom hdn,
      fun hlong he => h.store.refusesLength hroom hdn (hfresh he).2 hlong⟩
    have hrefuse : (run s moves).store.latest sight.name ≠ sight.seen →
        (run s moves).store.Refuses d := fun hne =>
      (h.store.refuses_iff hroom hdn hlong).2 (hstale hne)
    refine ⟨⟨fun hok => ?_, fun he => ?_⟩, hrefuse⟩
    · by_contra hne
      exact (hrefuse hne).not_ok hok
    · exact (h.store.inserts_iff hroom hdn hlong).2 (hfresh he).2
  · rcases h.store.versions_first (.inl key.ordinary) hr with h0 | ⟨g, hg, -, -, hgone⟩
    · exact h0
    · have hpos := h.store.written.pos g hg
      rw [remains_iff.2 (.inl hpos)] at hgone
      cases hgone

/-- Two clients that have seen the same: the one that writes second has lost. -/
theorem compareAndSwap_second : Store.inMemory.IsEmpty ∧
    (∃ id s', (run Store.inMemory [.read false "key", .read true "key"]).store.insert
      (.create "key" [2]) = (.ok id, s')) ∧
    (run Store.inMemory [.read false "key", .read true "key",
      .write false (.put [1]) none]).store.Refuses (.create "key" [2]) := by
  obtain ⟨hroom, hwrite, -⟩ := compareAndSwap Store.isEmpty_inMemory
    [.read false "key", .read true "key"]
  obtain ⟨hroom', hwrite', -⟩ := compareAndSwap Store.isEmpty_inMemory
    [.read false "key", .read true "key", .write false (.put [1]) none]
  have hsight : (run Store.inMemory [.read false "key", .read true "key"]).sights true =
      some ⟨"key", none⟩ := by
    rw [Store.inMemory_eq]
    decide +kernel
  have hsight' : (run Store.inMemory [.read false "key", .read true "key",
      .write false (.put [1]) none]).sights true = some ⟨"key", none⟩ := by
    rw [Store.inMemory_eq]
    decide +kernel
  obtain ⟨hwins, hshort, -⟩ := hwrite (hroom (by decide)) true ⟨"key", none⟩ hsight
    (.inl (by decide)) (.put [2]) none (.create "key" [2]) rfl
  obtain ⟨hloses, hshort', -⟩ := hwrite' (hroom' (by decide)) true ⟨"key", none⟩ hsight'
    (.inl (by decide)) (.put [2]) none (.create "key" [2]) rfl
  refine ⟨Store.isEmpty_inMemory, (hwins (hshort (by decide))).1.2 ?_,
    (hloses (hshort' (by decide))).2 ?_⟩
  · rw [Store.inMemory_eq]
    decide +kernel
  · rw [Store.inMemory_eq]
    decide +kernel

end Contest

end RevisionLog
