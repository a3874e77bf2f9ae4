import RevisionLog.Proofs.Course
import RevisionLog.Proofs.Opening

/-!
# Stale writes and sweeps

A write of a live key is stale if it creates the key, or follows a record that a later one has
superseded. What refuses it is the row of the version that took its place, and a sweep may remove
that row: then the stale write wins. `Course.stale_write` says exactly when. `Course.create_wins`
is a course on which a live key is created once more.
-/

namespace RevisionLog

namespace Course

open History

/-- A write of a name that is behind its history: a creation, or the next version of a record that
a later one has superseded. -/
inductive Stale (past : List Record) (name : String) : Draft → Prop
  | create (value : Bytes) (lease : Option Int) :
    Stale past name ((Draft.create name value).leased lease)
  | update {a g : Record} (value : Bytes) (lease : Option Int) : a ∈ past → a.name = name →
    g ∈ past → g.name = name → a.id < g.id →
    Stale past name ((Draft.update a.resolved value).leased lease)
  | tombstone {a g : Record} (lease : Option Int) : a ∈ past → a.name = name →
    g ∈ past → g.name = name → a.id < g.id →
    Stale past name ((Draft.tombstone a.resolved).leased lease)

/-- Sweeps have removed the version: they have reached it, and it is a tombstone or superseded
within their reach. -/
def Gone (c : Course) (b : Record) : Prop :=
  b.id ≤ c.reach ∧ (b.deleted = true ∨
    ∃ g ∈ c.past, g.name = b.name ∧ b.id < g.id ∧ g.id ≤ c.reach)

theorem gone_iff {c : Course} {b : Record} : c.Gone b ↔ remains c.reach c.past b = false := by
  rw [← Bool.not_eq_true, remains_iff]
  constructor
  · rintro ⟨hle, hd | ⟨g, hg, hgn, hlt, hgr⟩⟩ (hlt' | ⟨hl, hall⟩)
    · omega
    · rw [hd] at hl
      cases hl
    · omega
    · have := hall g hg hgn hlt
      omega
  · intro hgone
    refine ⟨by omega, ?_⟩
    by_contra hnone
    refine hgone (.inr ⟨by simpa using fun hd => hnone (.inl hd), fun g hg hgn hlt => ?_⟩)
    exact Int.not_le.1 fun hle => hnone (.inr ⟨g, hg, hgn, hlt, hle⟩)

theorem mem_remaining_iff {c : Course} {b : Record} {n : String} :
    b ∈ remaining c.reach c.past n ↔ b ∈ c.past ∧ b.name = n ∧ ¬ c.Gone b := by
  rw [mem_remaining, gone_iff, Bool.not_eq_false]

theorem Stale.name_eq {past : List Record} {name : String} {d : Draft}
    (h : Stale past name d) : d.name = name := by
  cases h with
  | create => simp [Draft.create]
  | update value lease ha hn => simpa [Draft.update] using hn
  | tombstone lease ha hn => simpa [Draft.tombstone, Draft.update] using hn

/-- A stale write names none, or a record that a later one has superseded. -/
theorem Stale.prevRevision_eq {past : List Record} {name : String} {d : Draft}
    (h : Stale past name d) : d.prevRevision = 0 ∨ ∃ a ∈ past, a.name = name ∧
      d.prevRevision = a.id ∧ ∃ g ∈ past, g.name = name ∧ a.id < g.id := by
  cases h with
  | create => simp [Draft.create]
  | update value lease ha hn hg hgn hlt =>
    exact .inr ⟨_, ha, hn, by simp [Draft.update], _, hg, hgn, hlt⟩
  | tombstone lease ha hn hg hgn hlt =>
    exact .inr ⟨_, ha, hn, by simp [Draft.tombstone, Draft.update], _, hg, hgn, hlt⟩

/-- Before sweeps have reached what a stale write was built from, a record that is left names the
same one as the write. -/
theorem Kept.taken_of_stale {c : Course} {spent : Nat} (h : c.Kept spent) {key : Key} {l : Record}
    (hl : c.store.latest key.name = some l) {d : Draft} (hd : Stale c.past key.name d)
    (hreach : c.reach = 0 ∨ c.reach < d.prevRevision) :
    ∃ b ∈ remaining c.reach c.past key.name, b.prevRevision = d.prevRevision := by
  rcases hd.prevRevision_eq with hp | ⟨a, ha, han, hp, g, hg, hgn, hlt⟩
  · rw [h.latest_eq key.ordinary] at hl
    obtain ⟨l', hl', -⟩ := Option.map_eq_some_iff.1 hl
    obtain ⟨hlp, hln, -⟩ := mem_remaining.1 (List.mem_of_mem_head? hl')
    obtain ⟨b, hb, hbn, hbp⟩ := h.written.exists_first hlp
    have hpos := h.written.pos b hb
    exact ⟨b, mem_remaining.2 ⟨hb, hbn.trans hln, remains_iff.2 (.inl (by omega))⟩,
      hbp.trans hp.symm⟩
  · have hpos := h.written.pos a ha
    have hra : c.reach < a.id := by omega
    obtain ⟨b, hb, hbn, hab, -, hbp⟩ := h.written.follower ha (.inr hra) hg (hgn.trans han.symm) hlt
    exact ⟨b, mem_remaining.2 ⟨hb, hbn.trans han, remains_iff.2 (.inl (by omega))⟩,
      hbp.trans hp.symm⟩

/-- A stale write of a key that is there is refused exactly if a version that was built from what
the write was built from has not been removed by sweeps, and wins otherwise. In particular it is
refused as long as sweeps have not reached what it was built from. Apart from this stand writes that
the engine refuses as too long, of which there are none that leave 74 bytes of its limit. -/
theorem stale_write {s : Store} (hs : s.IsEmpty) (steps : List Step) (key : Key) {l : Record}
    (hl : (run s steps).store.latest key.name = some l) {d : Draft}
    (hd : Stale (run s steps).past key.name d) (hroom : (run s steps).store.HasRoom) :
    (¬ (run s steps).store.RefusesLength d →
      ((run s steps).store.Refuses d ↔
        ∃ b ∈ (run s steps).past, b.name = key.name ∧ b.prevRevision = d.prevRevision ∧
          ¬ (run s steps).Gone b) ∧
      ((∃ id s', (run s steps).store.insert d = (.ok id, s')) ↔
        ∀ b ∈ (run s steps).past, b.name = key.name → b.prevRevision = d.prevRevision →
          (run s steps).Gone b) ∧
      ((run s steps).reach = 0 ∨ (run s steps).reach < d.prevRevision →
        (run s steps).store.Refuses d)) ∧
    (d.bytes + 74 ≤ lengthLimit → ¬ (run s steps).store.RefusesLength d) := by
  have h := kept_run hs steps
  generalize run s steps = c at *
  have hname := hd.name_eq
  have hord : Ordinary d.name := hname ▸ key.ordinary
  refine ⟨fun hlong => ?_, h.not_refusesLength hroom hord⟩
  rw [h.refuses_iff hroom hord hlong, h.inserts_iff hroom hord hlong, hname]
  refine ⟨⟨fun ⟨b, hb, hp⟩ => ?_, fun ⟨b, hb, hbn, hp, hleft⟩ => ?_⟩,
    ⟨fun hfree b hb hbn hp => ?_, fun hall b hb hp => ?_⟩, h.taken_of_stale hl hd⟩
  · obtain ⟨hb, hbn, hleft⟩ := mem_remaining_iff.1 hb
    exact ⟨b, hb, hbn, hp, hleft⟩
  · exact ⟨b, mem_remaining_iff.2 ⟨hb, hbn, hleft⟩, hp⟩
  · by_contra hleft
    exact hfree b (mem_remaining_iff.2 ⟨hb, hbn, hleft⟩) hp
  · obtain ⟨hb, hbn, hleft⟩ := mem_remaining_iff.1 hb
    exact hleft (hall b hb hbn hp)

/-- A key of three versions, of which a sweep removes the first. -/
def sweptCreation : List Step :=
  [.write .sample (.put [1]) none, .write .sample (.put [2]) none, .write .sample (.put [3]) none,
    .setCompactRevision 2, .compact 2]

/-- The second of the three versions. -/
def secondVersion : Record :=
  ⟨{ name := "key", createRevision := 1, prevRevision := 1, value := [2], oldValue := [1] }, 2⟩

/-- The third of the three versions. -/
def thirdVersion : Record :=
  ⟨{ name := "key", createRevision := 1, prevRevision := 2, value := [3], oldValue := [2] }, 3⟩

/-- An update of the second version is stale. It is refused also after the sweep, since the third
version is left. -/
theorem update_refused : Store.inMemory.IsEmpty ∧
    (run Store.inMemory sweptCreation).reach = 2 ∧
    Stale (run Store.inMemory sweptCreation).past "key" (.update secondVersion [4]) ∧
    (run Store.inMemory sweptCreation).store.Refuses (.update secondVersion [4]) := by
  have hpast : (run Store.inMemory sweptCreation).past =
      [thirdVersion, secondVersion, (Draft.create "key" [1]).stored 1] := by
    rw [Store.inMemory_eq]
    decide +kernel
  have hreach : (run Store.inMemory sweptCreation).reach = 2 := by
    rw [Store.inMemory_eq]
    decide +kernel
  have hl : ((run Store.inMemory sweptCreation).store.latest "key").isSome = true := by
    rw [Store.inMemory_eq]
    decide +kernel
  obtain ⟨l, hl⟩ := Option.isSome_iff_exists.1 hl
  have hroom := (kept_run Store.isEmpty_inMemory sweptCreation).hasRoom (by decide)
  have hsecond : secondVersion ∈ (run Store.inMemory sweptCreation).past := by simp [hpast]
  have hthird : thirdVersion ∈ (run Store.inMemory sweptCreation).past := by simp [hpast]
  have hstale : Stale (run Store.inMemory sweptCreation).past "key" (.update secondVersion [4]) :=
    .update [4] none hsecond rfl hthird rfl (by decide)
  have hleft : ¬ (run Store.inMemory sweptCreation).Gone thirdVersion := fun hgone => by
    simp [Gone, hreach, thirdVersion] at hgone
  obtain ⟨hdecided, hshort⟩ :=
    stale_write Store.isEmpty_inMemory sweptCreation .sample hl hstale hroom
  obtain ⟨hrefuses, -, -⟩ := hdecided (hshort (by decide))
  exact ⟨Store.isEmpty_inMemory, hreach, hstale, hrefuses.2 ⟨thirdVersion, hthird, rfl, rfl, hleft⟩⟩

/-- A key that is created and updated, and swept up to the update. -/
def sweptUpdate : List Step :=
  [.write .sample (.put [1]) none, .write .sample (.put [2]) none, .setCompactRevision 2,
    .compact 2]

/-- The sweep removes the creation, so a second one wins though the key is live. -/
theorem create_wins : Store.inMemory.IsEmpty ∧
    ((run Store.inMemory sweptUpdate).store.latest "key").map (·.deleted) = some false ∧
    Stale (run Store.inMemory sweptUpdate).past "key" (.create "key" [3]) ∧
    ((run Store.inMemory sweptUpdate).store.insert (.create "key" [3])).1 = .ok 4 :=
  ⟨Store.isEmpty_inMemory, by rw [Store.inMemory_eq]; decide +kernel, .create [3] none,
    by rw [Store.inMemory_eq]; decide +kernel⟩

end Course

end RevisionLog
