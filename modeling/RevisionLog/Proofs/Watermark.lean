import RevisionLog.Proofs.Journal

/-!
# The watermark

Each row of the sentinel keeps a mark (`Table.Holds.mem_marks`), and the watermark is the greatest
of them, or 0 without any (`Table.watermark_mem`). A record leaves the marks alone
(`Table.Holds.marks_push`), a new mark raises the watermark to itself
(`Table.Holds.watermark_aside`), and a compaction that does not go past the watermark removes lower
marks only (`Table.Holds.watermark_compacted`).
-/

namespace RevisionLog

namespace Table

variable {t t' : Table} {past : List Record} {w id target : Int}

theorem watermark_of_nil (h : t.marks = []) : t.watermark = 0 := by
  rw [watermark, h]
  rfl

theorem watermark_eq (hw : w ∈ t.marks) (hle : ∀ m ∈ t.marks, m ≤ w) : t.watermark = w := by
  rw [watermark, List.max?_eq_some_iff.2 ⟨hw, hle⟩]
  rfl

theorem watermark_mem (h : t.marks ≠ []) :
    t.watermark ∈ t.marks ∧ ∀ m ∈ t.marks, m ≤ t.watermark := by
  obtain ⟨w, hw⟩ : ∃ w, t.marks.max? = some w := by
    cases hm : t.marks.max? with
    | none => exact absurd (List.max?_eq_none_iff.1 hm) h
    | some w => exact ⟨w, rfl⟩
  obtain ⟨hmem, hle⟩ := List.max?_eq_some_iff.1 hw
  rw [watermark_eq hmem hle]
  exact ⟨hmem, hle⟩

theorem le_watermark (hw : w ∈ t.marks) : w ≤ t.watermark :=
  (watermark_mem (List.ne_nil_of_mem hw)).2 w hw

/-- A draft under the name of the sentinel is a mark. -/
theorem marks_insert (h : t.Regular) {d : Draft} (ha : t.append d.row = .ok (id, t')) :
    t'.marks = t.marks ++ if d.name = sentinelName then [d.prevRevision] else [] := by
  obtain ⟨last, hids⟩ := h.counter
  rw [marks_append hids (fun _ => rfl) ha]
  simp [StoredRow.isSentinel, Draft.row_eq, Cell.int?]

/-- A further mark raises the watermark to itself; the first one is the watermark, even below 0. -/
theorem watermark_concat (h : t'.marks = t.marks ++ [w]) :
    t'.watermark = if t.marks = [] then w else max t.watermark w := by
  split
  · rename_i hnil
    rw [hnil] at h
    exact watermark_eq (by simp [h]) (by simp [h])
  · rename_i hnil
    obtain ⟨hmem, hle⟩ := watermark_mem hnil
    refine watermark_eq ?_ fun m hm => ?_
    · rw [h, List.mem_append, List.mem_singleton]
      by_cases hlt : t.watermark ≤ w
      · exact .inr (by omega)
      · rw [Int.max_eq_left (by omega)]
        exact .inl hmem
    · rw [h, List.mem_append, List.mem_singleton] at hm
      rcases hm with hm | rfl
      · have := hle m hm
        omega
      · omega

namespace Holds

/-- A mark is what a row of the sentinel keeps. -/
theorem mem_marks (h : t.Holds past) :
    w ∈ t.marks ↔ ∃ id, StoredRow.watermark w id ∈ t.rows := by
  rw [mem_marks_iff h.logged]
  constructor
  · rintro ⟨r, hr, hs, hw⟩
    rcases h.rows r hr with ⟨g, hg, rfl⟩ | ⟨w', hw', -⟩
    · rw [h.isSentinel_row hg] at hs
      cases hs
    · rw [← hw'] at hw
      cases hw
      exact ⟨r.id, hw' ▸ hr⟩
  · rintro ⟨id, hr⟩
    exact ⟨_, hr, StoredRow.isSentinel_watermark w id, rfl⟩

/-- A record is no mark. -/
theorem marks_push (h : t.Holds past) {d : Draft} (ha : t.append d.row = .ok (id, t'))
    (hname : d.name ≠ sentinelName) : t'.marks = t.marks := by
  rw [marks_insert h.regular ha, if_neg hname, List.append_nil]

theorem marks_aside (h : t.Holds past) (ha : t.append (.watermark w) = .ok (id, t')) :
    t'.marks = t.marks ++ [w] := by
  obtain ⟨last, hids, -⟩ := h.counter
  rw [marks_append hids (fun _ => rfl) ha, if_pos (StoredRow.isSentinel_watermark w id)]
  rfl

/-- A new mark raises the watermark to itself; the first mark may not be below 0. -/
theorem watermark_aside (h : t.Holds past) (ha : t.append (.watermark w) = .ok (id, t'))
    (hfirst : t.marks = [] → 0 ≤ w) : t'.watermark = max t.watermark w := by
  rw [watermark_concat (h.marks_aside ha)]
  split
  · rename_i hnil
    have := hfirst hnil
    rw [watermark_of_nil hnil]
    omega
  · rfl

/-- A compaction removes the marks below its target. -/
theorem mem_marks_compacted (h : t.Holds past) :
    w ∈ (t.compacted target).marks ↔ w ∈ t.marks ∧ (0 < target → target ≤ w) := by
  rw [(h.compacted target).mem_marks, h.mem_marks]
  constructor
  · rintro ⟨id, hr⟩
    obtain ⟨hr, hkept⟩ := mem_compacted.1 hr
    refine ⟨⟨id, hr⟩, fun hpos => ?_⟩
    have := hkept hpos
    rw [h.isSwept_watermark hr] at this
    simpa using this
  · rintro ⟨⟨id, hr⟩, hle⟩
    refine ⟨id, mem_compacted.2 ⟨hr, fun hpos => ?_⟩⟩
    rw [h.isSwept_watermark hr]
    simpa using hle hpos

/-- A compaction that does not go past the watermark leaves it. -/
theorem watermark_compacted (h : t.Holds past) (hle : target ≤ t.watermark) :
    (t.compacted target).watermark = t.watermark ∧
      ((t.compacted target).marks = [] ↔ t.marks = []) := by
  by_cases hnil : t.marks = []
  · have : (t.compacted target).marks = [] :=
      List.eq_nil_iff_forall_not_mem.2 fun m hm => by
        have := (h.mem_marks_compacted.1 hm).1
        simp [hnil] at this
    exact ⟨by rw [watermark_of_nil hnil, watermark_of_nil this], by simp [hnil, this]⟩
  · obtain ⟨hmem, hmax⟩ := watermark_mem hnil
    have hmem' := h.mem_marks_compacted.2 ⟨hmem, fun _ => hle⟩
    exact ⟨watermark_eq hmem' fun m hm => hmax m (h.mem_marks_compacted.1 hm).1,
      by simp [hnil, List.ne_nil_of_mem hmem']⟩

end Holds

end Table

end RevisionLog
