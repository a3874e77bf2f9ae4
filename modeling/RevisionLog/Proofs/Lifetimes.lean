import RevisionLog.Proofs.Course
import RevisionLog.Proofs.Opening

/-!
# Chains and lifetimes

What a log holds of a key on any course (`Course.Orderly`): the versions that are left form a chain,
each naming the one before it, and what the first one names is gone; each of them says when its
lifetime began and what the value before it was, even if the records that tell have been swept. A
write that is built from the latest record always finds its place free, so it succeeds unless its
row is too long (`Course.Kept.insert_latest`). It can be too long though the latest record was not:
an update or a tombstone holds the value before it as well, so there is no tombstone of a value that
takes more than half of the limit (`Course.Kept.remove_refused`).
-/

namespace RevisionLog

namespace Course

open History

/-- What the log of a course holds of a key, and what the versions say of the whole history. -/
structure Orderly (c : Course) (key : Key) : Prop where
  /-- The versions are what can be got of the key. -/
  got : ∀ r, r ∈ c.store.versions key.name ↔ c.store.get r.id = .ok (some r) ∧ r.name = key.name
  chain : (c.store.versions key.name).IsChain fun a b => a.id < b.id ∧ b.prevRevision = a.id
  first : ∀ r, (c.store.versions key.name).head? = some r →
    r.prevRevision = 0 ∨ (r.prevRevision < r.id ∧ c.store.get r.prevRevision = .ok none)
  /-- A version holds the id of the last creation of the key that is not after it. -/
  born : ∀ r ∈ c.store.versions key.name,
    ∃ b, beginning c.past r = some b ∧ r.createRevision = b.id
  /-- Versions of one lifetime have one birth, and those of a later one a later. -/
  lifetime : ∀ a ∈ c.store.versions key.name, ∀ b ∈ c.store.versions key.name, a.id ≤ b.id →
    if ∃ g ∈ c.past, g.name = key.name ∧ g.created = true ∧ a.id < g.id ∧ g.id ≤ b.id then
      a.createRevision < b.createRevision
    else a.createRevision = b.createRevision
  /-- A creation holds no old value, and any other version that of the one before it. -/
  oldValue : ∀ r ∈ c.store.versions key.name, (r.created = true → r.oldValue = []) ∧
    (r.created = false → ∃ b, before c.past r = some b ∧ r.oldValue = b.value)

theorem Kept.orderly {c : Course} {spent : Nat} (h : c.Kept spent) (key : Key) :
    c.Orderly key where
  got := fun _ => h.mem_versions_iff
  chain := h.versions_chain key.ordinary
  first := fun r hr => by
    rcases h.versions_first key.ordinary hr with h0 | ⟨g, hg, hgi, hlt, hgone⟩
    · exact .inl h0
    · exact .inr ⟨by omega, hgi ▸ h.get_gone hg hgone⟩
  born := fun r hr => by
    obtain ⟨b, hb, rfl⟩ := h.of_mem_versions key.ordinary hr
    exact h.written.birth_eq (mem_remaining.1 hb).1
  lifetime := fun a ha b hb hle => by
    obtain ⟨x, hx, rfl⟩ := h.of_mem_versions key.ordinary ha
    obtain ⟨y, hy, rfl⟩ := h.of_mem_versions key.ordinary hb
    obtain ⟨hxp, hxn, -⟩ := mem_remaining.1 hx
    obtain ⟨hyp, hyn, -⟩ := mem_remaining.1 hy
    rw [← hyn]
    exact h.written.birth_lifetime hxp hyp (hxn.trans hyn.symm) hle
  oldValue := fun r hr => by
    obtain ⟨b, hb, rfl⟩ := h.of_mem_versions key.ordinary hr
    exact h.written.oldValue_eq (r := b) (mem_remaining.1 hb).1

/-- A draft built from the latest record is inserted, unless it is too long. -/
theorem Kept.insert_latest {c : Course} {spent : Nat} (h : c.Kept spent) (hroom : c.store.HasRoom)
    {key : Key} {change : Change} {lease : Option Int} {d : Draft}
    (hd : change.draft? key.name (c.store.latest key.name) lease = some d) :
    (¬ c.store.RefusesLength d → ∃ id s', c.store.insert d = (.ok id, s')) ∧
      (d.bytes + 74 ≤ lengthLimit → ¬ c.store.RefusesLength d) ∧
      (lengthLimit < d.bytes + 10 → c.store.RefusesLength d) := by
  obtain ⟨hname, -, hfree⟩ := h.draft_latest hd
  have hord : Ordinary d.name := hname ▸ key.ordinary
  exact ⟨fun hlong => (h.inserts_iff hroom hord hlong).2 hfree, h.not_refusesLength hroom hord,
    h.refusesLength hroom hord hfree⟩

/-- A tombstone holds the last value twice, so there is none after a value that is too long for
that. -/
theorem Kept.remove_refused {c : Course} {spent : Nat} (h : c.Kept spent) (hroom : c.store.HasRoom)
    {key : Key} {r : Record} (hl : c.store.latest key.name = some r) (hlive : r.deleted = false)
    (hlong : lengthLimit < 2 * r.value.length + 10) (lease : Option Int) :
    c.store.RefusesLength ((Draft.tombstone r).leased lease) := by
  have hd : Change.remove.draft? key.name (c.store.latest key.name) lease =
      some ((Draft.tombstone r).leased lease) := by
    simp [Change.draft?, hl, hlive]
  refine (h.insert_latest hroom hd).2.2 ?_
  simp only [Draft.bytes, Draft.leased_value, Draft.leased_oldValue, Draft.tombstone, Draft.update]
  omega

/-- On any course writes built from the latest record succeed, and the log of every key is orderly.
The engine sets two limits to this: it has 2^63 - 1 ids, and it refuses a write whose row would be
longer than 1,000,000,000 bytes, of which at least 10 and at most 74 are not for name and values. -/
theorem orderly_run {s : Store} (hs : s.IsEmpty) (steps : List Step) (key : Key) :
    ((steps.length : Int) < maxInt → (run s steps).store.HasRoom) ∧
    ((run s steps).store.HasRoom → ∀ (change : Change) (lease : Option Int) (d : Draft),
      change.draft? key.name ((run s steps).store.latest key.name) lease = some d →
      (¬ (run s steps).store.RefusesLength d →
        ∃ id s', (run s steps).store.insert d = (.ok id, s')) ∧
      (d.bytes + 74 ≤ lengthLimit → ¬ (run s steps).store.RefusesLength d) ∧
      (lengthLimit < d.bytes + 10 → (run s steps).store.RefusesLength d)) ∧
    (run s steps).Orderly key := by
  have h := kept_run hs steps
  exact ⟨h.hasRoom, fun hroom _ _ _ hd => h.insert_latest hroom hd, h.orderly key⟩

/-- A key that was updated and removed, swept, and begun anew. -/
def begunAnew : List Step :=
  [.write .sample (.put [1]) none, .write .sample (.put [2]) (some 7), .write .sample .remove none,
    .setCompactRevision 3, .compact 3, .write .sample (.put [3]) none]

/-- The next version of the key is put in as well. -/
theorem orderly_begunAnew : Store.inMemory.IsEmpty ∧
    (run Store.inMemory begunAnew).store.HasRoom ∧
    (∃ d, (Change.put [4]).draft? "key" ((run Store.inMemory begunAnew).store.latest "key") none =
      some d ∧ ∃ id s', (run Store.inMemory begunAnew).store.insert d = (.ok id, s')) ∧
    (run Store.inMemory begunAnew).Orderly .sample := by
  obtain ⟨hroom, hwrite, horderly⟩ := orderly_run Store.isEmpty_inMemory begunAnew .sample
  have hroom := hroom (by decide)
  have hd : (Change.put [4]).draft? "key" ((run Store.inMemory begunAnew).store.latest "key") none =
      some { name := "key", createRevision := 5, prevRevision := 5, value := [4],
             oldValue := [3] } := by
    rw [Store.inMemory_eq]
    decide +kernel
  obtain ⟨hok, hshort, -⟩ := hwrite hroom _ _ _ hd
  exact ⟨Store.isEmpty_inMemory, hroom, ⟨_, hd, hok (hshort (by decide))⟩, horderly⟩

end Course

end RevisionLog
