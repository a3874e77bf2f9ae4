import RevisionLog.Proofs.Opening
import RevisionLog.Proofs.Watermark

/-!
# The watermark as a register

The watermark of a journal is a register that keeps the greatest of what `setCompactRevision` has
put into it: after any deeds it is the greatest of 0 and the revisions that were recorded
(`Journal.watermark_register`). What a deed makes of the watermark is said once
(`Journal.take_watermark`), and so is that a mark stands until the next compaction
(`Journal.Effect.mem_marks`), which is why no revision is recorded twice without one in between.

A compaction removes marks, and rows under the ids that records name. It never removes the greatest
mark: its target is not past it, and no record names the row of a mark.
-/

namespace RevisionLog

namespace Journal

variable {t t' : Table} {past past' : List Record} {j : Journal} {deed : Deed} {w : Int}

/-! ## What a deed makes of the watermark -/

/-- The revision that a deed records. -/
def mark? (j : Journal) : Deed → Option Int
  | .setCompactRevision revision => if j.store.accepts revision then some revision else none
  | _ => none

/-- The revisions that deeds record, one after another. -/
def recorded (j : Journal) : List Deed → List Int
  | [] => []
  | deed :: deeds => (j.mark? deed).toList ++ (j.take deed).recorded deeds

/-- Only a new mark moves the watermark. -/
theorem Effect.watermark_eq (h : t.Holds past) (he : Effect t past deed t' past')
    (hd : ∀ revision, deed ≠ .setCompactRevision revision) : t'.watermark = t.watermark := by
  cases he with
  | nothing => rfl
  | write ha hname => rw [Table.watermark, Table.watermark, h.marks_push ha hname]
  | watermark => exact absurd rfl (hd _)
  | compact => exact (h.watermark_compacted (Int.min_le_right _ _)).1

/-- Only a compaction removes a mark. -/
theorem Effect.mem_marks (h : t.Holds past) (he : Effect t past deed t' past')
    (hd : ∀ revision, deed ≠ .compact revision) (hw : w ∈ t.marks) : w ∈ t'.marks := by
  cases he with
  | nothing => exact hw
  | write ha hname => rwa [h.marks_push ha hname]
  | watermark ha =>
    rw [h.marks_aside ha]
    exact List.mem_append_left _ hw
  | compact => exact absurd rfl (hd _)

/-- A revision that is recorded raises the watermark to itself. -/
theorem take_watermark (hj : j.store.Serves t) (h : t.Holds j.past)
    (hnat : ∀ revision, deed = .setCompactRevision revision → 0 ≤ revision) :
    ∃ t', (j.take deed).store.Serves t' ∧ t'.Holds (j.take deed).past ∧
      t'.watermark = (j.mark? deed).toList.foldl max t.watermark ∧
      ∀ revision, j.mark? deed = some revision → revision ∈ t'.marks := by
  obtain ⟨t', hj', he⟩ := take_effect hj h deed
  cases deed with
  | setCompactRevision revision =>
    rcases hj.setCompactRevision_cases h.regular revision with
      ⟨s', id, t', hset, ht', ha, -⟩ | ⟨e, hset, -⟩
    · have hwater := h.watermark_aside ha fun _ => hnat revision rfl
      have hmark : j.mark? (.setCompactRevision revision) = some revision := by
        simp [mark?, Store.accepts, hset, Except.isOk, Except.toBool]
      rw [hmark]
      refine ⟨t', by simpa only [take, hset] using ht', h.aside ha, hwater, ?_⟩
      rintro _ ⟨⟩
      simp [h.marks_aside ha]
    · have hmark : j.mark? (.setCompactRevision revision) = none := by
        simp [mark?, Store.accepts, hset, Except.isOk, Except.toBool]
      rw [hmark]
      refine ⟨t, by simpa only [take, hset] using hj, h, rfl, ?_⟩
      rintro _ ⟨⟩
  | _ =>
    exact ⟨t', hj', he.holds h, he.watermark_eq h (by simp), by simp [mark?]⟩

/-! ## Runs -/

theorem foldl_watermark (hj : j.store.Serves t) (h : t.Holds j.past) (deeds : List Deed)
    (hnat : ∀ revision, .setCompactRevision revision ∈ deeds → 0 ≤ revision) :
    ∃ t', (deeds.foldl take j).store.Serves t' ∧ t'.Holds (deeds.foldl take j).past ∧
      t'.watermark = (j.recorded deeds).foldl max t.watermark := by
  induction deeds generalizing j t with
  | nil => exact ⟨t, hj, h, rfl⟩
  | cons deed deeds ih =>
    obtain ⟨t₁, hj₁, h₁, hwater₁, -⟩ :=
      take_watermark hj h fun revision he => hnat revision (he ▸ .head _)
    obtain ⟨t₂, hj₂, h₂, hwater₂⟩ := ih hj₁ h₁ fun revision he => hnat revision (.tail _ he)
    refine ⟨t₂, hj₂, h₂, ?_⟩
    rw [hwater₂, hwater₁, recorded, List.foldl_append]

theorem foldl_mem_marks (hj : j.store.Serves t) (h : t.Holds j.past) (deeds : List Deed)
    (hd : ∀ revision, .compact revision ∉ deeds) (hw : w ∈ t.marks) :
    ∃ t', (deeds.foldl take j).store.Serves t' ∧ t'.Holds (deeds.foldl take j).past ∧
      w ∈ t'.marks := by
  induction deeds generalizing j t with
  | nil => exact ⟨t, hj, h, hw⟩
  | cons deed deeds ih =>
    obtain ⟨t', hj', he⟩ := take_effect hj h deed
    have hw' := he.mem_marks h (fun revision hr => hd revision (hr ▸ .head _)) hw
    exact ih hj' (he.holds h) (fun revision hr => hd revision (.tail _ hr)) hw'

/-- A revision that was recorded is a mark as long as there is no compaction. -/
theorem mem_marks_of_accepts (hj : j.store.Serves t) (h : t.Holds j.past) {revision : Int}
    (hnat : 0 ≤ revision) (haccepts : j.store.accepts revision = true) (deeds : List Deed)
    (hd : ∀ r, .compact r ∉ deeds) :
    ∃ t', ((.setCompactRevision revision :: deeds).foldl take j).store.Serves t' ∧
      t'.Holds ((.setCompactRevision revision :: deeds).foldl take j).past ∧
      revision ∈ t'.marks := by
  have hnat' : ∀ r, Deed.setCompactRevision revision = .setCompactRevision r → 0 ≤ r := by
    rintro _ ⟨⟩
    exact hnat
  obtain ⟨t', hj', h', -, hmarks⟩ := take_watermark hj h hnat'
  exact foldl_mem_marks hj' h' deeds hd (hmarks revision (if_pos haccepts))

/-- After any deeds the watermark is the greatest of 0 and the revisions that were recorded. Only a
deed that records one moves it, and upwards. A revision above it is accepted, if there is an id left,
and so one that is refused as already there is not above it; one that was recorded is refused until
the next compaction. -/
theorem watermark_register {s : Store} (hs : s.IsEmpty) (deeds : List Deed)
    (hnat : ∀ revision, .setCompactRevision revision ∈ deeds → 0 ≤ revision) :
    ∃ w, (run s deeds).store.compactRevision = .ok w ∧
      w = (recorded { store := s } deeds).foldl max 0 ∧
      (∀ deed, (∀ revision, deed = .setCompactRevision revision → 0 ≤ revision) →
        ∃ w', ((run s deeds).take deed).store.compactRevision = .ok w' ∧ w ≤ w' ∧
          ((∀ revision, deed ≠ .setCompactRevision revision) → w' = w)) ∧
      (∀ revision e s', (run s deeds).store.setCompactRevision revision = (.error e, s') →
        e.isKeyExists = true → revision ≤ w) ∧
      (∀ revision, w < revision → (run s deeds).store.HasRoom →
        (run s deeds).store.accepts revision = true) ∧
      ∀ before revision between, deeds = before ++ .setCompactRevision revision :: between →
        (run s before).store.accepts revision = true → (∀ r, .compact r ∉ between) →
        ∃ e, (run s deeds).store.setCompactRevision revision = (.error e, (run s deeds).store) ∧
          ((run s deeds).store.HasRoom → e.isKeyExists = true) := by
  obtain ⟨t₀, ht₀, hrows, hids₀, hu₀⟩ := hs.serves
  have h₀ : t₀.Holds [] := .empty hrows hids₀ hu₀
  have hwater₀ : t₀.watermark = 0 := Table.watermark_of_nil (by simp [Table.marks, hrows])
  obtain ⟨t, ht, h, hwater⟩ := foldl_watermark (j := { store := s }) ht₀ h₀ deeds hnat
  rw [hwater₀] at hwater
  refine ⟨t.watermark, ht.compactRevision_eq h.logged, hwater, fun deed hd => ?_,
    fun revision e s' hset he => Table.le_watermark (ht.mem_marks_of_isKeyExists h.regular hset he),
    fun revision hlt hroom => ?_, ?_⟩
  · obtain ⟨t', ht', h', hwater', -⟩ := take_watermark ht h hd
    refine ⟨t'.watermark, ht'.compactRevision_eq h'.logged, ?_, fun hother => ?_⟩
    · rw [hwater']
      cases (deeds.foldl take { store := s }).mark? deed with
      | none => exact Int.le_refl _
      | some revision => exact Int.le_max_left _ _
    · rw [hwater']
      cases deed with
      | setCompactRevision revision => exact absurd rfl (hother revision)
      | _ => rfl
  · refine (ht.accepts_iff h.regular).2 ⟨fun hmem => ?_, hroom⟩
    have := Table.le_watermark hmem
    omega
  · rintro before revision between rfl haccepts hnone
    obtain ⟨t₁, ht₁, h₁, -⟩ := foldl_watermark (j := { store := s }) ht₀ h₀ before
      fun r hr => hnat r (List.mem_append_left _ hr)
    obtain ⟨t₂, ht₂, h₂, hmem⟩ :=
      mem_marks_of_accepts ht₁ h₁ (hnat revision (by simp)) haccepts between hnone
    rw [← List.foldl_append] at ht₂ h₂
    exact ht₂.setCompactRevision_of_mem h₂.regular hmem

/-- Watermarks that are recorded out of order, with sweeps in between. -/
def outOfOrder : List Deed :=
  [.create .sample [1] none, .succeed 1 (.update [2]) none, .setCompactRevision 2, .compact 5,
    .setCompactRevision 1, .succeed 2 .tombstone none, .compact 1, .setCompactRevision 2]

theorem watermark_register_outOfOrder : Store.inMemory.IsEmpty ∧
    (∀ revision, .setCompactRevision revision ∈ outOfOrder → 0 ≤ revision) ∧
    (run Store.inMemory outOfOrder).store.compactRevision = .ok 2 := by
  have hnat : ∀ revision, .setCompactRevision revision ∈ outOfOrder → 0 ≤ revision := by
    simp [outOfOrder]
  have hrecorded : recorded { store := .inMemory } outOfOrder = [2, 1] := by
    rw [Store.inMemory_eq]
    decide +kernel
  obtain ⟨w, hw, hmax, -⟩ := watermark_register Store.isEmpty_inMemory outOfOrder hnat
  rw [hrecorded] at hmax
  exact ⟨Store.isEmpty_inMemory, hnat, by rw [hw, hmax]; rfl⟩

end Journal

end RevisionLog
