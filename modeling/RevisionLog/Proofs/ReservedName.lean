import RevisionLog.Proofs.Actions
import RevisionLog.Proofs.Opening

/-!
# Drafts under the name of the sentinel

A row is a mark by its name alone. So an insertion moves the watermark, and takes the place of a
watermark that is still to be recorded, exactly if its draft bears the name of the sentinel: then it
is a mark itself, of the revision that the draft names as the one before it
(`Store.insert_watermark`). Under any other name an insertion leaves all of this alone, in every
state that the operations of a store lead to.
-/

namespace RevisionLog

/-- There are marks exactly if there are records under the name of the sentinel. -/
theorem Table.Regular.marks_eq_nil_iff {t : Table} (h : t.Regular) :
    t.marks = [] ↔ t.versions sentinelName = [] := by
  rw [List.eq_nil_iff_forall_not_mem, List.eq_nil_iff_forall_not_mem]
  constructor
  · intro hnone rec hrec
    obtain ⟨r, hr, -⟩ := List.mem_filterMap.1 hrec
    obtain ⟨hr, hname⟩ := List.mem_filter.1 hr
    obtain ⟨w, hw⟩ := (h.logged r hr).prevRevision_int
    have hs := (h.logged r hr).isSentinel_iff.2 (beq_iff_eq.1 hname)
    exact hnone w ((mem_marks_iff h.logged).2 ⟨r, hr, hs, hw⟩)
  · intro hnone w hw
    obtain ⟨r, hr, hs, -⟩ := (mem_marks_iff h.logged).1 hw
    obtain ⟨rec, hrec, -⟩ := (h.logged r hr).record?_eq
    have hname := (h.logged r hr).isSentinel_iff.1 hs
    exact hnone rec (List.mem_filterMap.2 ⟨r, List.mem_filter.2 ⟨hr, by simp [hname]⟩, hrec⟩)

namespace Store

namespace Serves

variable {s after : Store} {t t' : Table} {d : Draft} {id : Int}

theorem insert_ordinary (hs : s.Serves t) (ht : t.Regular) (hafter : after.Serves t')
    (ha : t.append d.row = .ok (id, t')) (hname : d.name ≠ sentinelName) :
    t'.watermark = t.watermark ∧ ∀ revision, s.accepts revision = true → after.HasRoom →
      after.accepts revision = true := by
  have hmarks := Table.marks_insert ht ha
  rw [if_neg hname, List.append_nil] at hmarks
  refine ⟨by rw [Table.watermark, Table.watermark, hmarks], fun revision haccepts hroom => ?_⟩
  rw [hs.accepts_iff ht] at haccepts
  rw [hafter.accepts_iff (ht.insert ha), hmarks]
  exact ⟨haccepts.1, hroom⟩

theorem insert_sentinel (hs : s.Serves t) (ht : t.Regular) (hafter : after.Serves t')
    (ha : t.append d.row = .ok (id, t')) (hname : d.name = sentinelName) :
    (t'.watermark = if s.versions sentinelName = [] then d.prevRevision
        else max t.watermark d.prevRevision) ∧
      ∀ revision, s.accepts revision = true → after.HasRoom →
        (after.accepts revision = true ↔ revision ≠ d.prevRevision) := by
  have hmarks := Table.marks_insert ht ha
  rw [if_pos hname] at hmarks
  simp only [hs.versions_eq, ← ht.marks_eq_nil_iff]
  refine ⟨Table.watermark_concat hmarks, fun revision haccepts hroom => ?_⟩
  rw [hs.accepts_iff ht] at haccepts
  rw [hafter.accepts_iff (ht.insert ha), hmarks]
  simp [haccepts.1, hroom]

end Serves

/-- After any actions, an insertion under another name than that of the sentinel leaves the
watermark, and the store accepts the watermarks that it accepted. An insertion under the name of the
sentinel is a mark of the revision that its draft names. One that fails leaves the store. -/
theorem insert_watermark {s after : Store} (hs : s.IsEmpty) (actions : List Action) {d : Draft}
    {answer : Except LogError Int} (h : (s.actAll actions).insert d = (answer, after)) :
    ∃ w w', (s.actAll actions).compactRevision = .ok w ∧ after.compactRevision = .ok w' ∧
      (d.name ≠ sentinelName → w' = w ∧ ∀ revision,
        (s.actAll actions).accepts revision = true → after.HasRoom →
          after.accepts revision = true) ∧
      (d.name = sentinelName → ∀ id, answer = .ok id →
        w' = (if (s.actAll actions).versions sentinelName = [] then d.prevRevision
          else max w d.prevRevision) ∧
        ∀ revision, (s.actAll actions).accepts revision = true → after.HasRoom →
          (after.accepts revision = true ↔ revision ≠ d.prevRevision)) ∧
      (∀ e, answer = .error e → after = s.actAll actions) ∧
      (actions.length + 1 < maxInt → after.HasRoom) := by
  obtain ⟨t, last, ht, hreg, hids, hlast⟩ := hs.actAll actions
  rcases ht.insert_outcome d with ⟨id, s', t', ha, hinsert, ht'⟩ | ⟨e, he⟩
  · rw [hinsert] at h
    cases h
    refine ⟨t.watermark, t'.watermark, ht.compactRevision_eq hreg.logged,
      ht'.compactRevision_eq (hreg.insert ha).logged, ht.insert_ordinary hreg ht' ha,
      fun hname _ _ => ht.insert_sentinel hreg ht' ha hname, ?_, fun hbound => ?_⟩
    · rintro _ ⟨⟩
    · obtain ⟨rfl, -, hids', -⟩ := Table.append_inv hids (fun _ => rfl) ha
      rw [ht'.hasRoom_iff hids']
      omega
  · rw [he] at h
    cases h
    have hw := ht.compactRevision_eq hreg.logged
    refine ⟨t.watermark, t.watermark, hw, hw, fun _ => ⟨rfl, fun _ haccepts _ => haccepts⟩, ?_,
      fun _ _ => rfl, fun hbound => ?_⟩
    · rintro _ _ ⟨⟩
    · rw [ht.hasRoom_iff hids]
      omega

/-- A key and a mark. -/
def marked : List Action := [.insert (.create "key" [1]), .setCompactRevision 1]

/-- Another key leaves the watermark, and 2 can still be recorded. -/
theorem insert_watermark_key : inMemory.IsEmpty ∧ ∃ answer after,
    (inMemory.actAll marked).insert (.create "other" [1]) = (answer, after) ∧
    (inMemory.actAll marked).compactRevision = after.compactRevision ∧
    (inMemory.actAll marked).accepts 2 = true ∧ after.accepts 2 = true := by
  obtain ⟨w, w', hw, hw', hother, -, -, hroom⟩ :=
    insert_watermark (d := .create "other" [1]) isEmpty_inMemory marked (Prod.eta _).symm
  obtain ⟨rfl, haccepts⟩ := hother (by decide)
  have haccepted : (inMemory.actAll marked).accepts 2 = true := by
    rw [inMemory_eq]
    decide +kernel
  exact ⟨isEmpty_inMemory, _, _, (Prod.eta _).symm, hw.trans hw'.symm, haccepted,
    haccepts 2 haccepted (hroom (by decide))⟩

/-- The record of the mark at revision 2 can be got and updated like that of a key, and its update
moves the watermark from 1 to 2, which can then not be recorded. -/
theorem insert_moves_watermark : inMemory.IsEmpty ∧ ∃ mark,
    (inMemory.actAll marked).get 2 = .ok (some mark) ∧
    (inMemory.actAll marked).compactRevision = .ok 1 ∧
    (inMemory.actAll marked).accepts 2 = true ∧
    ((inMemory.actAll marked).insert (.update mark [2])).1 = .ok 3 ∧
    ((inMemory.actAll marked).insert (.update mark [2])).2.compactRevision = .ok 2 ∧
    ((inMemory.actAll marked).insert (.update mark [2])).2.accepts 2 = false := by
  refine ⟨isEmpty_inMemory, { name := sentinelName, prevRevision := 1, id := 2 }, ?_⟩
  rw [inMemory_eq]
  decide +kernel

end Store

end RevisionLog
