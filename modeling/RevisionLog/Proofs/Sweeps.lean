import RevisionLog.Proofs.Journal

/-!
# Sweeps one after another

Two compactions one after another leave what a single one up to the farther target leaves
(`Table.Holds.compacted_compacted`): a record that the nearer sweep removes the farther one removes
too, and what replaces a record beyond the nearer target is still there for the second sweep.
What a compaction leaves of the records depends on the records alone
(`Table.Holds.keyRows_compacted`).
-/

namespace RevisionLog

namespace Table

variable {t t' : Table} {past : List Record} {g : Record} {target target' : Int}

theorem eq_of_rows (hrows : t.rows = t'.rows) (hids : t.ids = t'.ids)
    (hindexes : t.indexes = t'.indexes) : t = t' := by
  cases t
  cases t'
  simp only at hrows hids hindexes
  subst hrows hids hindexes
  rfl

@[simp] theorem compacted_indexes (t : Table) (target : Int) :
    (t.compacted target).indexes = t.indexes := by
  unfold compacted
  split <;> rfl

theorem compacted_of_nonpos (h : target ≤ 0) : t.compacted target = t := if_neg (by omega)

theorem compacted_rows (h : 0 < target) :
    (t.compacted target).rows = t.rows.filter fun r => !t.isSwept target r := by
  rw [compacted, if_pos h, sweepTo_rows]

namespace Holds

theorem isSwept_record (h : t.Holds past) (hg : g ∈ past) : t.isSwept target g.row = true ↔
    (∃ p ∈ past, p.row ∈ t.rows ∧ p.prevRevision = g.id ∧ p.id ≤ target) ∨
      g.deleted = true ∧ g.id ≤ target := by
  have hpos := h.built.pos g hg
  simp only [isSwept, h.isSentinel_row hg, Bool.false_and, Bool.or_false, Bool.or_eq_true,
    Bool.and_eq_true, decide_eq_true_eq, h.isReplaced_iff]
  simp only [Record.row_deleted, Cell.differs_flag_zero, Record.row_id]
  refine or_congr_left ⟨?_, ?_⟩
  · rintro ⟨p, hp, hr, -, hle, heq⟩
    exact ⟨p, hp, hr, heq, hle⟩
  · rintro ⟨p, hp, hr, heq, hle⟩
    exact ⟨p, hp, hr, by omega, hle, heq⟩

/-- What is removed up to the farther target, the first sweep removes or the second. -/
theorem isSwept_max (h : t.Holds past) (target target' : Int) {r : StoredRow} (hr : r ∈ t.rows) :
    t.isSwept (max target target') r = true ↔
      t.isSwept target r = true ∨ (t.compacted target).isSwept target' r = true := by
  have h' := h.compacted target
  rcases h.rows r hr with ⟨g, hg, rfl⟩ | ⟨w, hw, -⟩
  · rw [h.isSwept_record hg, h.isSwept_record hg, h'.isSwept_record hg]
    constructor
    · rintro (⟨p, hp, hpr, hprev, hle⟩ | ⟨hdel, hle⟩)
      · by_cases hnear : p.id ≤ target
        · exact .inl (.inl ⟨p, hp, hpr, hprev, hnear⟩)
        · -- the first sweep leaves the record that replaces `g`
          have hpr' := h.mem_compacted_of_lt hp hpr (Int.not_le.1 hnear)
          exact .inr (.inl ⟨p, hp, hpr', hprev, by omega⟩)
      · by_cases hnear : g.id ≤ target
        · exact .inl (.inr ⟨hdel, hnear⟩)
        · exact .inr (.inr ⟨hdel, by omega⟩)
    · rintro ((⟨p, hp, hpr, hprev, hle⟩ | ⟨hdel, hle⟩) | (⟨p, hp, hpr, hprev, hle⟩ | ⟨hdel, hle⟩))
      · exact .inl ⟨p, hp, hpr, hprev, by omega⟩
      · exact .inr ⟨hdel, by omega⟩
      · exact .inl ⟨p, hp, (mem_compacted.1 hpr).1, hprev, by omega⟩
      · exact .inr ⟨hdel, by omega⟩
  · rw [← hw] at hr ⊢
    rw [h.isSwept_watermark hr, h.isSwept_watermark hr, decide_eq_true_eq, decide_eq_true_eq]
    by_cases hnear : w < target
    · exact ⟨fun _ => .inl hnear, fun _ => by omega⟩
    · have hkept : StoredRow.watermark w r.id ∈ (t.compacted target).rows :=
        mem_compacted.2 ⟨hr, fun _ => by simpa [h.isSwept_watermark hr] using hnear⟩
      rw [h'.isSwept_watermark hkept, decide_eq_true_eq]
      omega

/-- Two compactions do what a single one up to the farther target does. -/
theorem compacted_compacted (h : t.Holds past) (target target' : Int) :
    (t.compacted target).compacted target' = t.compacted (max target target') := by
  rcases Int.lt_or_le 0 target with hpos | hneg
  · rcases Int.lt_or_le 0 target' with hpos' | hneg'
    · refine eq_of_rows ?_ (by simp) (by simp)
      rw [compacted_rows hpos', compacted_rows hpos, compacted_rows (by omega),
        List.filter_filter]
      refine List.filter_congr fun r hr => ?_
      have := h.isSwept_max target target' hr
      rw [Bool.eq_iff_iff]
      simp only [Bool.and_eq_true, Bool.not_eq_true', ← Bool.not_eq_true, this, not_or]
      exact And.comm
    · rw [compacted_of_nonpos hneg', Int.max_eq_left (by omega)]
  · rw [compacted_of_nonpos hneg]
    rcases Int.lt_or_le 0 target' with hpos' | hneg'
    · rw [Int.max_eq_right (by omega)]
    · rw [compacted_of_nonpos hneg', compacted_of_nonpos (Int.max_le.2 ⟨hneg, hneg'⟩)]

end Holds

/-- The rows that are none of the sentinel. -/
def keyRows (t : Table) : List StoredRow := t.rows.filter (!·.isSentinel)

namespace Holds

theorem row_mem_keyRows (h : t.Holds past) (hg : g ∈ past) :
    g.row ∈ t.keyRows ↔ g.row ∈ t.rows := by
  simp [keyRows, h.isSentinel_row hg]

theorem keyRows_append (h : t.Holds past) {w id : Int}
    (ha : t.append (.watermark w) = .ok (id, t')) : t'.keyRows = t.keyRows := by
  obtain ⟨last, hids, -⟩ := h.counter
  obtain ⟨rfl, hrows, -⟩ := append_inv hids (fun _ => rfl) ha
  simp [keyRows, hrows]

/-- What a compaction leaves of the records depends on the records alone. -/
theorem keyRows_compacted (h : t.Holds past) (h' : t'.Holds past) (hkeys : t'.keyRows = t.keyRows)
    (target : Int) : (t'.compacted target).keyRows = (t.compacted target).keyRows := by
  rcases Int.lt_or_le 0 target with hpos | hneg
  · have hswept : ∀ t : Table, (t.compacted target).keyRows =
        t.keyRows.filter fun r => !t.isSwept target r := fun t => by
      rw [keyRows, compacted_rows hpos, keyRows, List.filter_filter, List.filter_filter]
      simp only [Bool.and_comm]
    rw [hswept, hswept, hkeys]
    refine List.filter_congr fun r hr => ?_
    obtain ⟨hr, hs⟩ := List.mem_filter.1 hr
    obtain ⟨g, hg, rfl⟩ := h.exists_record hr (by simpa using hs)
    congr 1
    rw [Bool.eq_iff_iff, h.isSwept_record hg, h'.isSwept_record hg]
    refine or_congr_left (exists_congr fun p => and_congr_right fun hp => ?_)
    rw [← h.row_mem_keyRows hp, ← h'.row_mem_keyRows hp, hkeys]
  · rw [compacted_of_nonpos hneg, compacted_of_nonpos hneg, hkeys]

end Holds

end Table

end RevisionLog
