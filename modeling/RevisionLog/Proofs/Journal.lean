import RevisionLog.Proofs.Change
import RevisionLog.Proofs.StoreSpec

/-!
# Journals

A journal is what becomes of a store by deeds in any order: creations of keys, writes that follow
any record that was ever written, watermarks and compactions. Unlike on a course nothing asks that
a write follow the latest record of its name, so writes may be stale and names may branch; only what
a record names has been written before it (`History.Built`).

`Table.Holds t past`: the rows of `t` are records of `past` and watermarks. What a deed makes of the
table is said once (`Journal.Effect`, `Journal.take_effect`), and with it the invariant passes on
(`Journal.Effect.holds`, `Journal.sound_run`). A sweep removes no record above its target
(`Table.Holds.le_of_isSwept`), since a record is replaced by later ones only.
-/

namespace RevisionLog

namespace History

/-- Ids ascend, no record is of the sentinel, and each names none or an earlier one of its name. -/
inductive Built : List Record → Prop
  | nil : Built []
  | cons {g : Record} {past : List Record} : 0 < g.id → (∀ h ∈ past, h.id < g.id) →
    g.name ≠ sentinelName →
    (g.prevRevision = 0 ∨ ∃ h ∈ past, h.id = g.prevRevision ∧ h.name = g.name) →
    Built past → Built (g :: past)

namespace Built

variable {past : List Record} {g h : Record}

theorem pos (hb : Built past) : ∀ g ∈ past, 0 < g.id := by
  induction hb with
  | nil => simp
  | cons hpos _ _ _ _ ih =>
    intro g hg
    rcases List.mem_cons.1 hg with rfl | hg
    · exact hpos
    · exact ih g hg

theorem ordinary (hb : Built past) : ∀ g ∈ past, g.name ≠ sentinelName := by
  induction hb with
  | nil => simp
  | cons _ _ hname _ _ ih =>
    intro g hg
    rcases List.mem_cons.1 hg with rfl | hg
    · exact hname
    · exact ih g hg

theorem descending (hb : Built past) : past.Pairwise fun g h => h.id < g.id := by
  induction hb with
  | nil => exact .nil
  | cons _ hlt _ _ _ ih => exact .cons hlt ih

/-- What a record names was written before it. -/
theorem names (hb : Built past) : ∀ g ∈ past, g.prevRevision = 0 ∨
    ∃ h ∈ past, h.id = g.prevRevision ∧ h.name = g.name ∧ g.prevRevision < g.id := by
  induction hb with
  | nil => simp
  | cons _ hlt _ hnames _ ih =>
    intro g hg
    rcases List.mem_cons.1 hg with rfl | hg
    · refine hnames.imp_right ?_
      rintro ⟨h, hh, hid, hname⟩
      exact ⟨h, .tail _ hh, hid, hname, hid ▸ hlt h hh⟩
    · refine (ih g hg).imp_right ?_
      rintro ⟨h, hh, hid⟩
      exact ⟨h, .tail _ hh, hid⟩

theorem prev_lt (hb : Built past) (hg : g ∈ past) : g.prevRevision < g.id := by
  rcases hb.names g hg with hp | ⟨-, -, -, -, hlt⟩
  · have := hb.pos g hg
    omega
  · exact hlt

/-- Ids are not used twice. -/
theorem eq_of_id (hb : Built past) (hg : g ∈ past) (hh : h ∈ past) (hid : g.id = h.id) :
    g = h := by
  induction hb with
  | nil => cases hg
  | cons _ hlt _ _ _ ih =>
    rcases List.mem_cons.1 hg with rfl | hg' <;> rcases List.mem_cons.1 hh with rfl | hh'
    · rfl
    · have := hlt h hh'
      omega
    · have := hlt g hg'
      omega
    · exact ih hg' hh'

end Built

end History

open History

/-! ## Tables -/

namespace Table

/-- The rows of the table are records of `past` and watermarks. -/
structure Holds (t : Table) (past : List Record) : Prop where
  unique : t.isUnique = true
  counter : ∃ last, t.ids = .counter last ∧ ∀ g ∈ past, g.id ≤ last
  built : Built past
  /-- A watermark has an id of its own. -/
  rows : ∀ r ∈ t.rows, (∃ g ∈ past, g.row = r) ∨
    ∃ w, StoredRow.watermark w r.id = r ∧ ∀ g ∈ past, g.id ≠ r.id

/-- The table after a compaction whose target this is. -/
def compacted (t : Table) (target : Int) : Table :=
  if 0 < target then (t.sweepTo target).2 else t

variable {t t' : Table} {past : List Record} {g : Record} {r : StoredRow} {target id w : Int}

@[simp] theorem compacted_ids (t : Table) (target : Int) : (t.compacted target).ids = t.ids := by
  unfold compacted
  split <;> rfl

@[simp] theorem compacted_isUnique (t : Table) (target : Int) :
    (t.compacted target).isUnique = t.isUnique := by
  unfold compacted
  split <;> rfl

theorem mem_compacted : r ∈ (t.compacted target).rows ↔
    r ∈ t.rows ∧ (0 < target → t.isSwept target r = false) := by
  unfold compacted
  split <;> simp [*]

namespace Holds

theorem empty (hrows : t.rows = []) (hids : t.ids = .counter 0) (hu : t.isUnique = true) :
    t.Holds [] where
  unique := hu
  counter := ⟨0, hids, by simp⟩
  built := .nil
  rows := by simp [hrows]

theorem logged (h : t.Holds past) : ∀ r ∈ t.rows, r.Logged := by
  intro r hr
  rcases h.rows r hr with ⟨g, -, rfl⟩ | ⟨w, hw, -⟩
  · exact .record g
  · exact hw ▸ .watermark w r.id

theorem regular (h : t.Holds past) : t.Regular where
  logged := h.logged
  counter := h.counter.imp fun _ hc => hc.1
  unique := h.unique

theorem isSentinel_row (h : t.Holds past) (hg : g ∈ past) : g.row.isSentinel = false := by
  simp [h.built.ordinary g hg]

/-- A row that is none of the sentinel is that of a record. -/
theorem exists_record (h : t.Holds past) (hr : r ∈ t.rows) (hs : r.isSentinel = false) :
    ∃ g ∈ past, g.row = r := by
  refine (h.rows r hr).resolve_right ?_
  rintro ⟨w, hw, -⟩
  rw [← hw] at hs
  simp at hs

/-- A row under the id of a record is that record's. -/
theorem eq_row (h : t.Holds past) (hr : r ∈ t.rows) (hg : g ∈ past) (hid : r.id = g.id) :
    r = g.row := by
  rcases h.rows r hr with ⟨g', hg', rfl⟩ | ⟨w, -, hne⟩
  · rw [h.built.eq_of_id hg' hg hid]
  · exact absurd hid.symm (hne g hg)

/-! ### Another row -/

/-- Another row, which is that of a record that the past has more, or a watermark. -/
theorem append (h : t.Holds past) {row : Int → StoredRow} (hid : ∀ i, (row i).id = i)
    (ha : t.append row = .ok (id, t')) {past' : List Record} (hb : Built past')
    (hpast : ∀ g ∈ past', g ∈ past ∨ g.row = row id) (hsub : ∀ g ∈ past, g ∈ past')
    (hrow : (∃ g ∈ past', g.row = row id) ∨
      past' = past ∧ ∃ w, StoredRow.watermark w id = row id) : t'.Holds past' := by
  obtain ⟨last, hids, hle⟩ := h.counter
  obtain ⟨rfl, hrows, hids', hix⟩ := append_inv hids hid ha
  have hnew : ∀ g ∈ past', g ∈ past ∨ g.id = last + 1 := fun g hg =>
    (hpast g hg).imp_right fun he => by rw [← Record.row_id, he, hid]
  refine ⟨by simpa [isUnique, hix] using h.unique, ⟨last + 1, hids', fun g hg => ?_⟩, hb,
    fun r hr => ?_⟩
  · rcases hnew g hg with hg | hg
    · have := hle g hg
      omega
    · omega
  · rw [hrows, List.mem_append, List.mem_singleton] at hr
    rcases hr with hr | rfl
    · refine (h.rows r hr).imp ?_ ?_
      · rintro ⟨g, hg, rfl⟩
        exact ⟨g, hsub g hg, rfl⟩
      · rintro ⟨w, hw, hne⟩
        refine ⟨w, hw, fun g hg => ?_⟩
        rcases hnew g hg with hg | hg
        · exact hne g hg
        · have := (t.counted last hids).2 r hr
          omega
    · refine hrow.imp_right ?_
      rintro ⟨rfl, w, hw⟩
      refine ⟨w, by rw [hid, hw], fun g hg => ?_⟩
      have := hle g hg
      rw [hid]
      omega

/-- A record that names none, or one that was written before. -/
theorem push (h : t.Holds past) {d : Draft} (ha : t.append d.row = .ok (id, t'))
    (hname : d.name ≠ sentinelName)
    (hprev : d.prevRevision = 0 ∨ ∃ g ∈ past, g.id = d.prevRevision ∧ g.name = d.name) :
    t'.Holds (d.stored id :: past) := by
  obtain ⟨last, hids, hle⟩ := h.counter
  obtain ⟨rfl, -⟩ := append_inv hids (fun _ => rfl) ha
  have hpos := (t.counted last hids).1
  have hbuilt : Built (d.stored (last + 1) :: past) := by
    refine .cons ?_ (fun g hg => ?_) hname hprev h.built
    · rw [Draft.stored_id]
      omega
    · have := hle g hg
      rw [Draft.stored_id]
      omega
  refine h.append (fun _ => rfl) ha hbuilt (fun g hg => ?_) (fun g hg => .tail _ hg)
    (.inl ⟨_, .head _, rfl⟩)
  exact (List.mem_cons.1 hg).symm.imp_right fun he => by rw [he, Draft.row_eq]

/-- A watermark is no part of the past. -/
theorem aside (h : t.Holds past) (ha : t.append (.watermark w) = .ok (id, t')) : t'.Holds past :=
  h.append (fun _ => rfl) ha h.built (fun _ hg => .inl hg) (fun _ hg => hg)
    (.inr ⟨rfl, w, rfl⟩)

/-! ### Sweeps -/

/-- What replaces a row is a record that names it. -/
theorem isReplaced_iff (h : t.Holds past) : t.isReplaced target r = true ↔
    ∃ g ∈ past, g.row ∈ t.rows ∧ g.prevRevision ≠ 0 ∧ g.id ≤ target ∧
      g.prevRevision = r.id := by
  simp only [isReplaced, List.any_eq_true, Bool.and_eq_true, decide_eq_true_eq]
  constructor
  · rintro ⟨p, hp, ⟨⟨hname, hprev⟩, hle⟩, heq⟩
    rcases h.rows p hp with ⟨g, hg, rfl⟩ | ⟨w, hw, -⟩
    · exact ⟨g, hg, hp, by simpa using hprev, hle, by simpa using heq⟩
    · rw [← hw] at hname
      simp at hname
  · rintro ⟨g, hg, hp, hprev, hle, heq⟩
    have := h.built.ordinary g hg
    exact ⟨g.row, hp, by simp_all⟩

/-- A sweep removes no record above its target. -/
theorem le_of_isSwept (h : t.Holds past) (hg : g ∈ past) (hs : t.isSwept target g.row = true) :
    g.id ≤ target := by
  simp only [isSwept, h.isSentinel_row hg, Bool.false_and, Bool.or_false, Bool.or_eq_true,
    Bool.and_eq_true, Record.row_id] at hs
  rcases hs with hrep | ⟨-, hle⟩
  · obtain ⟨p, hp, -, -, hle, heq⟩ := h.isReplaced_iff.1 hrep
    have := h.built.prev_lt hp
    rw [Record.row_id] at heq
    omega
  · exact of_decide_eq_true hle

/-- A sweep removes the watermarks below its target. -/
theorem isSwept_watermark (h : t.Holds past) (hr : StoredRow.watermark w id ∈ t.rows) :
    t.isSwept target (.watermark w id) = decide (w < target) := by
  have hrep : t.isReplaced target (.watermark w id) = false := by
    rw [← Bool.not_eq_true, h.isReplaced_iff]
    rintro ⟨g, hg, -, hprev, -, heq⟩
    rcases h.built.names g hg with h0 | ⟨g', hg', hid, -⟩
    · exact hprev h0
    · have := h.eq_row hr hg' (by rw [hid, heq])
      have hsent := h.isSentinel_row hg'
      rw [← this] at hsent
      simp at hsent
  rw [isSwept, hrep]
  simp

/-- A compaction adds no row. -/
theorem compacted (h : t.Holds past) (target : Int) : (t.compacted target).Holds past where
  unique := by rw [compacted_isUnique, h.unique]
  counter := by simpa using h.counter
  built := h.built
  rows r hr := h.rows r (mem_compacted.1 hr).1

/-- A compaction leaves the records above its target. -/
theorem mem_compacted_of_lt (h : t.Holds past) (hg : g ∈ past) (hr : g.row ∈ t.rows)
    (hlt : target < g.id) : g.row ∈ (t.compacted target).rows := by
  refine mem_compacted.2 ⟨hr, fun _ => Bool.eq_false_iff.2 fun hs => ?_⟩
  have := h.le_of_isSwept hg hs
  omega

end Holds

end Table

/-- A compaction goes up to the watermark at most, and never fails. -/
theorem Store.Serves.compact_target {s : Store} {t : Table} (h : s.Serves t)
    (hlog : ∀ r ∈ t.rows, r.Logged) (revision : Int) :
    ∃ sweep s', s.compact revision = (.ok sweep, s') ∧
      sweep.target = min revision t.watermark ∧
      s'.Serves (t.compacted (min revision t.watermark)) ∧ s'.dialect = s.dialect := by
  obtain ⟨sweep, htarget, hsweep⟩ := Table.sweep_ok hlog revision
  obtain ⟨s', hs, ht', hd⟩ := h.compact_ok hsweep
  rw [htarget] at ht'
  exact ⟨sweep, s', hs, htarget, ht', hd⟩

/-! ## Journals -/

/-- A deed on a log. -/
inductive Deed
  | create (key : Key) (value : Bytes) (lease : Option Int)
  /-- Writes what follows the record with an id, if there ever was one. -/
  | succeed (id : Int) (next : Successor) (lease : Option Int)
  | setCompactRevision (revision : Int)
  | compact (revision : Int)

/-- A store, and what was written to it. -/
structure Journal where
  store : Store
  /-- Every record of a key that was ever written, the newest first. -/
  past : List Record := []

namespace Journal

/-- The journal after an insertion; one that fails leaves no trace in it. -/
def insert (j : Journal) (d : Draft) : Journal :=
  match j.store.insert d with
  | (.ok id, s) => { store := s, past := d.stored id :: j.past }
  | (.error _, s) => { j with store := s }

/-- The journal after a deed. -/
def take (j : Journal) : Deed → Journal
  | .create key value lease => j.insert ((Draft.create key.name value).leased lease)
  | .succeed id next lease =>
    match j.past.find? (·.id == id) with
    | none => j
    | some r => j.insert ((next.draft r.resolved).leased lease)
  | .setCompactRevision revision => { j with store := (j.store.setCompactRevision revision).2 }
  | .compact revision => { j with store := (j.store.compact revision).2 }

/-- The journal of a store by deeds, one after another. -/
def run (s : Store) (deeds : List Deed) : Journal := deeds.foldl take { store := s }

/-- What a deed may make of a table and of the past. -/
inductive Effect (t : Table) (past : List Record) : Deed → Table → List Record → Prop
  | nothing (deed : Deed) : Effect t past deed t past
  | write {deed : Deed} {d : Draft} {id : Int} {t' : Table} :
    t.append d.row = .ok (id, t') → d.name ≠ sentinelName →
      (d.prevRevision = 0 ∨ ∃ g ∈ past, g.id = d.prevRevision ∧ g.name = d.name) →
        Effect t past deed t' (d.stored id :: past)
  | watermark {revision id : Int} {t' : Table} :
    t.append (.watermark revision) = .ok (id, t') →
      Effect t past (.setCompactRevision revision) t' past
  | compact (revision : Int) :
    Effect t past (.compact revision) (t.compacted (min revision t.watermark)) past

/-- The store works on a table that holds what was written, with ids up to `spent`. -/
def Sound (j : Journal) (spent : Nat) : Prop :=
  ∃ t last, j.store.Serves t ∧ t.Holds j.past ∧ t.ids = .counter last ∧ last ≤ spent

variable {t t' : Table} {past past' : List Record} {j : Journal} {deed : Deed} {spent : Nat}

/-- A deed leaves a table that holds what was written. -/
theorem Effect.holds (h : t.Holds past) (he : Effect t past deed t' past') : t'.Holds past' := by
  cases he with
  | nothing => exact h
  | write ha hname hprev => exact h.push ha hname hprev
  | watermark ha => exact h.aside ha
  | compact => exact h.compacted _

/-- A deed takes at most one id. -/
theorem Effect.counter (he : Effect t past deed t' past') {last : Int}
    (hids : t.ids = .counter last) :
    ∃ last', t'.ids = .counter last' ∧ last ≤ last' ∧ last' ≤ last + 1 := by
  cases he with
  | nothing => exact ⟨last, hids, by omega, by omega⟩
  | write ha => exact Table.append_counter hids (fun _ => rfl) ha
  | watermark ha => exact Table.append_counter hids (fun _ => rfl) ha
  | compact => exact ⟨last, by simpa using hids, by omega, by omega⟩

/-- What an insertion makes of the table. -/
theorem insert_effect (hj : j.store.Serves t) {d : Draft} (hname : d.name ≠ sentinelName)
    (hprev : d.prevRevision = 0 ∨ ∃ g ∈ j.past, g.id = d.prevRevision ∧ g.name = d.name)
    (deed : Deed) :
    ∃ t', (j.insert d).store.Serves t' ∧ Effect t j.past deed t' (j.insert d).past := by
  unfold insert
  rcases hj.insert_outcome d with ⟨id, s', t', ha, hs, ht'⟩ | ⟨e, he⟩
  · rw [hs]
    exact ⟨t', ht', .write ha hname hprev⟩
  · rw [he]
    exact ⟨t, hj, .nothing deed⟩

theorem successor_name (r : Record) (next : Successor) : (next.draft r).name = r.name := by
  cases next <;> rfl

theorem successor_prevRevision (r : Record) (next : Successor) :
    (next.draft r).prevRevision = r.id := by
  cases next <;> rfl

/-- What a deed makes of the table. -/
theorem take_effect (hj : j.store.Serves t) (h : t.Holds j.past) (deed : Deed) :
    ∃ t', (j.take deed).store.Serves t' ∧ Effect t j.past deed t' (j.take deed).past := by
  cases deed with
  | create key value lease =>
    refine insert_effect hj ?_ (.inl ?_) _
    · simpa [Draft.create] using key.ordinary
    · simp [Draft.create]
  | succeed id next lease =>
    simp only [take]
    cases hf : j.past.find? (·.id == id) with
    | none => exact ⟨t, hj, .nothing _⟩
    | some r =>
      have hr := List.mem_of_find?_eq_some hf
      refine insert_effect hj ?_ (.inr ⟨r, hr, ?_, ?_⟩) _
      · simpa [successor_name] using h.built.ordinary r hr
      · simp [successor_prevRevision]
      · simp [successor_name]
  | setCompactRevision revision =>
    simp only [take, Store.setCompactRevision_snd]
    rcases hj.append_outcome (.watermark revision) fun _ => rfl with
      ⟨id, s', t', ha, hs, ht', -⟩ | ⟨e, he⟩
    · rw [hs]
      exact ⟨t', ht', .watermark ha⟩
    · rw [he]
      exact ⟨t, hj, .nothing _⟩
  | compact revision =>
    obtain ⟨sweep, s', hs, -, ht', -⟩ := hj.compact_target h.logged revision
    simp only [take, hs]
    exact ⟨_, ht', .compact revision⟩

namespace Sound

/-- A new journal. -/
theorem of_isEmpty {s : Store} (hs : s.IsEmpty) : ({ store := s } : Journal).Sound 0 := by
  obtain ⟨t, ht, hrows, hids, hu⟩ := hs.serves
  exact ⟨t, 0, ht, .empty hrows hids hu, hids, Int.le_refl _⟩

theorem take (h : j.Sound spent) (deed : Deed) : (j.take deed).Sound (spent + 1) := by
  obtain ⟨t, last, hj, ht, hids, hlast⟩ := h
  obtain ⟨t', hj', he⟩ := take_effect hj ht deed
  obtain ⟨last', hids', -, hle⟩ := he.counter hids
  exact ⟨t', last', hj', he.holds ht, hids', by omega⟩

theorem foldl (h : j.Sound spent) (deeds : List Deed) :
    (deeds.foldl Journal.take j).Sound (spent + deeds.length) := by
  induction deeds generalizing j spent with
  | nil => exact h
  | cons deed deeds ih =>
    have := ih (h.take deed)
    rwa [Nat.add_right_comm, Nat.add_assoc, ← List.length_cons] at this

end Sound

/-- After any deeds on an empty log the table holds what was written. -/
theorem sound_run {s : Store} (hs : s.IsEmpty) (deeds : List Deed) :
    (run s deeds).Sound deeds.length := by
  simpa only [run, Nat.zero_add] using (Sound.of_isEmpty hs).foldl deeds

end Journal

end RevisionLog
