import RevisionLog.Proofs.CompactionReads
import RevisionLog.Proofs.Watermark

/-!
# How the current revision moves

The current revision is the highest id that is in the log, and reads answer it with every row and
every count (`Store.Stamps`). A write that succeeds makes its own id the current revision, so only a
compaction can lower it: exactly when it removes the newest row, which then is a tombstone up to its
target or a watermark below it (`Journal.currentRevision_falls`). Ids are still not used twice, for
they come from the counter of the table.
-/

namespace RevisionLog

/-! ## The revisions that reads answer -/

namespace Table

variable {t t' : Table} {q : Selection} {limit : Int} {withDeleted : Bool} {out : List Row}

theorem list_stamped (hlog : ∀ r ∈ t.rows, r.Logged) (h : t.list q limit withDeleted = .ok out) :
    ∀ row ∈ out, row.currentRevision = t.currentRevision ∧ row.compactRevision = t.watermark :=
  answer_stamped hlog (logged_list hlog) (answer_of_list h)

theorem after_stamped (hlog : ∀ r ∈ t.rows, r.Logged) {pattern : String} {revision : Int}
    (h : t.after pattern revision limit = .ok out) :
    ∀ row ∈ out, row.currentRevision = t.currentRevision ∧ row.compactRevision = t.watermark :=
  answer_stamped hlog (logged_after hlog) (answer_of_after h)

theorem count_stamped {n : Int × Nat} (h : t.count q = .ok n) : n.1 = t.currentRevision := by
  unfold count at h
  split at h
  · cases h
  · cases h
    rfl

end Table

/-- Reads answer these two revisions with every row, and the first of them with every count. -/
structure Store.Stamps (s : Store) (current compact : Int) : Prop where
  listCurrent : ∀ pattern cursor limit withDeleted rows,
    s.listCurrent pattern cursor limit withDeleted = .ok rows →
    ∀ row ∈ rows, row.currentRevision = current ∧ row.compactRevision = compact
  list : ∀ pattern cursor limit revision withDeleted rows,
    s.list pattern cursor limit revision withDeleted = .ok rows →
    ∀ row ∈ rows, row.currentRevision = current ∧ row.compactRevision = compact
  after : ∀ pattern revision limit rows, s.after pattern revision limit = .ok rows →
    ∀ row ∈ rows, row.currentRevision = current ∧ row.compactRevision = compact
  countCurrent : ∀ pattern cursor n, s.countCurrent pattern cursor = .ok n → n.1 = current
  count : ∀ pattern cursor revision n, s.count pattern cursor revision = .ok n → n.1 = current

theorem Store.Serves.stamps {s : Store} {t : Table} (h : s.Serves t)
    (hlog : ∀ r ∈ t.rows, r.Logged) : s.Stamps t.currentRevision t.watermark where
  listCurrent pattern cursor limit withDeleted rows hrows := by
    rw [Store.listCurrent, h.query] at hrows
    exact Table.list_stamped hlog (mapError_eq_ok.1 hrows)
  list pattern cursor limit revision withDeleted rows hrows := by
    rw [Store.list, h.query] at hrows
    exact Table.list_stamped hlog (mapError_eq_ok.1 hrows)
  after pattern revision limit rows hrows := by
    rw [Store.after, h.query] at hrows
    exact Table.after_stamped hlog (mapError_eq_ok.1 hrows)
  countCurrent pattern cursor n hn := by
    rw [Store.countCurrent, h.query] at hn
    exact Table.count_stamped (mapError_eq_ok.1 hn)
  count pattern cursor revision n hn := by
    rw [Store.count, h.query] at hn
    exact Table.count_stamped (mapError_eq_ok.1 hn)

/-! ## The newest row -/

namespace Table

variable {t t' : Table} {past : List Record} {r : StoredRow} {target id : Int}

/-- What a sweep removes without a replacement: tombstones up to its target, and watermarks below
it. -/
theorem outdated_iff {rec : Record} (hr : r.Logged) (hrec : r.record? = some rec) :
    ((r.deleted.differs (.int 0) && r.id ≤ target) ||
        (r.isSentinel && r.prevRevision.isBelow (.int target))) = true ↔
      rec.deleted = true ∧ rec.id ≤ target ∨
        rec.name = sentinelName ∧ rec.prevRevision < target := by
  simp only [Bool.or_eq_true, Bool.and_eq_true, decide_eq_true_eq]
  cases hr with
  | record g =>
    rw [StoredRow.record?_row] at hrec
    cases hrec
    simp
  | watermark w id =>
    rw [StoredRow.record?_watermark] at hrec
    cases hrec
    simp

namespace Holds

/-- The newest row is not replaced: what names it would be newer. -/
theorem isReplaced_newest (h : t.Holds past) (hr : r.id = t.currentRevision) :
    t.isReplaced target r = false := by
  rw [← Bool.not_eq_true, h.isReplaced_iff]
  rintro ⟨g, hg, hrow, -, -, hprev⟩
  have hle := le_currentRevision hrow
  have hlt := h.built.prev_lt hg
  rw [Record.row_id] at hle
  omega

theorem compacted_rows_ne_nil (h : t.Holds past) (hpos : 0 < target) (hle : target ≤ t.watermark) :
    (t.compacted target).rows ≠ [] := by
  -- the greatest mark stays
  have hnil : t.marks ≠ [] := fun hnil => by
    rw [watermark_of_nil hnil] at hle
    omega
  have hmem := h.mem_marks_compacted.2 ⟨(watermark_mem hnil).1, fun _ => hle⟩
  obtain ⟨id, hrow⟩ := (h.compacted target).mem_marks.1 hmem
  exact List.ne_nil_of_mem hrow

/-- A compaction lowers the current revision exactly if it removes the newest row. -/
theorem currentRevision_compacted_lt_iff (h : t.Holds past) (hle : target ≤ t.watermark) :
    (t.compacted target).currentRevision < t.currentRevision ↔
      0 < target ∧ ∃ r ∈ t.rows, r.id = t.currentRevision ∧ t.isSwept target r = true := by
  constructor
  · intro hlt
    have hpos : 0 < target := by
      by_contra hneg
      rw [Table.compacted, if_neg hneg] at hlt
      omega
    have hrows : t.rows ≠ [] := by
      intro hnil
      obtain ⟨r, hr⟩ := List.exists_mem_of_ne_nil _ (h.compacted_rows_ne_nil hpos hle)
      have hr := (mem_compacted.1 hr).1
      rw [hnil] at hr
      cases hr
    obtain ⟨r, hr, hid⟩ := exists_currentRevision hrows
    refine ⟨hpos, r, hr, hid, ?_⟩
    by_contra hkept
    have := le_currentRevision (mem_compacted.2 ⟨hr, fun _ => Bool.eq_false_iff.2 hkept⟩)
    omega
  · -- what is left has other rows, all of them below the newest one
    rintro ⟨hpos, r, hr, hid, hswept⟩
    obtain ⟨l, hl, hlid⟩ := exists_currentRevision (h.compacted_rows_ne_nil hpos hle)
    obtain ⟨hl, hkept⟩ := mem_compacted.1 hl
    have hle := le_currentRevision hl
    have hne : l.id ≠ r.id := by
      intro he
      rw [eq_of_id hl hr he, hswept] at hkept
      cases hkept hpos
    omega

theorem compacted_lowers_iff (h : t.Holds past) (hle : target ≤ t.watermark) :
    (t.compacted target).currentRevision < t.currentRevision ↔
      0 < target ∧ ∃ rec, t.get t.currentRevision = .ok (some rec) ∧
        (rec.deleted = true ∧ rec.id ≤ target ∨
          rec.name = sentinelName ∧ rec.prevRevision < target) := by
  rw [h.currentRevision_compacted_lt_iff hle, get_ok h.logged]
  refine and_congr_right fun _ => ?_
  constructor
  · rintro ⟨r, hr, hid, hswept⟩
    obtain ⟨rec, hrec, -⟩ := (h.logged r hr).record?_eq
    refine ⟨rec, by rw [← hid, find?_id hr, Option.bind_some, hrec], ?_⟩
    rw [isSwept, h.isReplaced_newest hid, Bool.false_or] at hswept
    exact (outdated_iff (h.logged r hr) hrec).1 hswept
  · rintro ⟨rec, hget, hout⟩
    rw [Except.ok.injEq] at hget
    obtain ⟨r, hf, hrec⟩ := Option.bind_eq_some_iff.1 hget
    have hr := List.mem_of_find?_eq_some hf
    have hid : r.id = t.currentRevision := by
      have := List.find?_some hf
      exact beq_iff_eq.1 this
    refine ⟨r, hr, hid, ?_⟩
    rw [isSwept, h.isReplaced_newest hid, Bool.false_or]
    exact (outdated_iff (h.logged r hr) hrec).2 hout

end Holds

end Table

/-! ## Journals -/

namespace Journal

variable {t t' : Table} {past past' : List Record} {deed : Deed}

theorem Effect.currentRevision_le (h : t.Holds past) (he : Effect t past deed t' past')
    (hd : ∀ revision, deed ≠ .compact revision) : t.currentRevision ≤ t'.currentRevision := by
  obtain ⟨last, hids, -⟩ := h.counter
  have hle := Table.currentRevision_le hids
  cases he with
  | nothing => exact Int.le_refl _
  | write ha =>
    rw [Table.currentRevision_append hids (fun _ => rfl) ha]
    obtain ⟨rfl, -⟩ := Table.append_inv hids (fun _ => rfl) ha
    omega
  | watermark ha =>
    rw [Table.currentRevision_append hids (fun _ => rfl) ha]
    obtain ⟨rfl, -⟩ := Table.append_inv hids (fun _ => rfl) ha
    omega
  | compact => exact absurd rfl (hd _)

/-- After any deeds, the current revision falls with the next one exactly if that is a compaction
that removes the newest row: a tombstone up to its target, or a watermark below it. Reads answer the
current revision and the watermark with every row. -/
theorem currentRevision_falls {s : Store} (hs : s.IsEmpty) (deeds : List Deed) :
    ∃ current w, (run s deeds).store.currentRevision = .ok current ∧
      (run s deeds).store.compactRevision = .ok w ∧ (run s deeds).store.Stamps current w ∧
      ∀ deed, ∃ next, ((run s deeds).take deed).store.currentRevision = .ok next ∧
        (next < current ↔ ∃ revision rec, deed = .compact revision ∧ 0 < min revision w ∧
          (run s deeds).store.get current = .ok (some rec) ∧
          (rec.deleted = true ∧ rec.id ≤ min revision w ∨
            rec.name = sentinelName ∧ rec.prevRevision < min revision w)) := by
  obtain ⟨t, last, ht, h, hids, -⟩ := sound_run hs deeds
  refine ⟨t.currentRevision, t.watermark, ht.currentRevision, ht.compactRevision_eq h.logged,
    ht.stamps h.logged, fun deed => ?_⟩
  have hget : ∀ rec, (run s deeds).store.get t.currentRevision = .ok (some rec) ↔
      t.get t.currentRevision = .ok (some rec) := fun rec => by
    rw [Store.get, ht.query, mapError_eq_ok]
  cases hdeed : deed with
  | compact revision =>
    obtain ⟨sweep, s', hcompact, -, ht', -⟩ := ht.compact_target h.logged revision
    refine ⟨_, by simpa only [take, hcompact] using ht'.currentRevision, ?_⟩
    rw [h.compacted_lowers_iff (Int.min_le_right _ _)]
    constructor
    · rintro ⟨hpos, rec, hrec, hout⟩
      exact ⟨revision, rec, rfl, hpos, (hget rec).2 hrec, hout⟩
    · rintro ⟨_, rec, ⟨⟩, hpos, hrec, hout⟩
      exact ⟨hpos, rec, (hget rec).1 hrec, hout⟩
  | _ =>
    obtain ⟨t', ht', he⟩ := take_effect ht h deed
    have hle := he.currentRevision_le h (by simp [hdeed])
    rw [hdeed] at ht'
    refine ⟨_, ht'.currentRevision, fun hlt => ?_, ?_⟩
    · omega
    · rintro ⟨_, _, ⟨⟩, -⟩

/-- A key whose tombstone is the newest row, above a watermark that was recorded before it. -/
def buriedLast : List Deed :=
  [.setCompactRevision 10, .create .sample [1] none, .succeed 2 .tombstone none]

/-- Another write does not lower the current revision. -/
theorem currentRevision_falls_created : Store.inMemory.IsEmpty ∧ ∃ current next,
    (run Store.inMemory buriedLast).store.currentRevision = .ok current ∧
    ((run Store.inMemory buriedLast).take (.create .sample [2] none)).store.currentRevision =
      .ok next ∧ current ≤ next := by
  obtain ⟨current, w, hcurrent, -, -, hfalls⟩ :=
    currentRevision_falls Store.isEmpty_inMemory buriedLast
  obtain ⟨next, hnext, hiff⟩ := hfalls (.create .sample [2] none)
  refine ⟨Store.isEmpty_inMemory, current, next, hcurrent, hnext, Int.not_lt.1 fun hlt => ?_⟩
  obtain ⟨_, _, ⟨⟩, -⟩ := hiff.1 hlt

/-- The compaction removes the tombstone, and the current revision goes back from 3 to 1. -/
theorem currentRevision_goes_back : Store.inMemory.IsEmpty ∧
    (run Store.inMemory buriedLast).store.currentRevision = .ok 3 ∧
    ((run Store.inMemory buriedLast).take (.compact 10)).store.currentRevision = .ok 1 := by
  refine ⟨Store.isEmpty_inMemory, ?_, ?_⟩ <;>
  · rw [Store.inMemory_eq]
    decide +kernel

end Journal

end RevisionLog
