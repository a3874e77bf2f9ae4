import RevisionLog.Proofs.CompactionReads

/-!
# What lists and polls answer

`Store.AnswersOnly s pattern P`: every record that a list or a poll with the pattern answers, from
whatever cursor, up to whatever revision and limit, has the property `P`. That is so exactly if
every record in the log under a name that matches has it, or the engine refuses the pattern as too
long (`Store.Serves.answersOnly_iff`): reads bring up nothing that cannot be got by its id, and a
poll from below a record brings up the record.
-/

namespace RevisionLog

namespace Table

variable {t : Table} {q : Selection} {limit : Int} {out : List Row} {r : StoredRow} {rec : Record}

/-- What a row is read as can be got by its id. -/
theorem get_of_row (hlog : ∀ r ∈ t.rows, r.Logged) (hr : r ∈ t.rows)
    (hread : r.record? = some rec) :
    t.get rec.id = .ok (some rec) ∧ r.name = .text rec.name ∧ rec.id = r.id := by
  obtain ⟨rec', hrec', hid, hname⟩ := (hlog r hr).record?_eq
  rw [hread, Option.some.injEq] at hrec'
  subst hrec'
  refine ⟨?_, hname, hid⟩
  rw [get_ok hlog, hid, find?_id hr, Option.bind_some, hread]

theorem exists_row_of_get (hlog : ∀ r ∈ t.rows, r.Logged) {id : Int}
    (h : t.get id = .ok (some rec)) : ∃ r ∈ t.rows, r.id = id ∧ r.record? = some rec := by
  rw [get_ok hlog, Except.ok.injEq] at h
  obtain ⟨r, hf, hread⟩ := Option.bind_eq_some_iff.1 h
  have hid := List.find?_some hf
  exact ⟨r, List.mem_of_find?_eq_some hf, beq_iff_eq.1 hid, hread⟩

theorem get_of_list (hlog : ∀ r ∈ t.rows, r.Logged) {withDeleted : Bool}
    (h : t.list q limit withDeleted = .ok out) {row : Row} (hrow : row ∈ out) :
    Pattern.isTooComplex q.pattern = false ∧ t.get row.record.id = .ok (some row.record) ∧
      (Cell.text row.record.name).isLike q.pattern = true := by
  have hshort : Pattern.isTooComplex q.pattern = false := by
    by_contra hlong
    rw [list_long (by simpa using hlong)] at h
    split at h
    · cases h
      cases hrow
    · cases h
  obtain ⟨r, hr, hread⟩ :=
    (exists_answer_iff hlog (logged_list hlog) (answer_of_list h)).1 ⟨row, hrow, rfl⟩
  obtain ⟨hr, hadmits⟩ := mem_of_mem_select (mem_of_mem_capped hr)
  obtain ⟨hget, hname, -⟩ := get_of_row hlog hr hread
  exact ⟨hshort, hget, hname ▸ q.isLike_of_admits hadmits⟩

theorem get_of_after (hlog : ∀ r ∈ t.rows, r.Logged) {pattern : String} {revision : Int}
    (h : t.after pattern revision limit = .ok out) {row : Row} (hrow : row ∈ out) :
    Pattern.isTooComplex pattern = false ∧ t.get row.record.id = .ok (some row.record) ∧
      (Cell.text row.record.name).isLike pattern = true := by
  obtain ⟨r, hr, hread⟩ :=
    (exists_answer_iff hlog (logged_after hlog) (answer_of_after h)).1 ⟨row, hrow, rfl⟩
  obtain ⟨habove, hlike⟩ := List.mem_filter.1 (mem_of_mem_capped hr)
  have hshort : Pattern.isTooComplex pattern = false := by
    by_contra hlong
    unfold after at h
    rw [if_pos] at h
    · cases h
    · simp only [Bool.and_eq_true, Bool.not_eq_true', List.isEmpty_eq_false_iff]
      exact ⟨by simpa using hlong, List.ne_nil_of_mem habove⟩
  obtain ⟨hget, hname, -⟩ := get_of_row hlog (List.mem_filter.1 habove).1 hread
  exact ⟨hshort, hget, hname ▸ hlike⟩

/-- A poll from just below a record answers it. -/
theorem exists_after (hlog : ∀ r ∈ t.rows, r.Logged) {pattern : String}
    (hshort : Pattern.isTooComplex pattern = false) (hget : t.get rec.id = .ok (some rec))
    (hlike : (Cell.text rec.name).isLike pattern = true) :
    ∃ out, t.after pattern (rec.id - 1) 0 = .ok out ∧ ∃ row ∈ out, row.record = rec := by
  have hlogged : ∀ r ∈ capped 0 ((t.rows.filter fun r => rec.id - 1 < r.id).filter
      (·.name.isLike pattern)), r.Logged := logged_after hlog
  obtain ⟨out, hout, -⟩ := answer_ok hlog hlogged
  have hafter : t.after pattern (rec.id - 1) 0 = .ok out := by
    unfold after
    simpa [hshort] using hout
  refine ⟨out, hafter, (exists_answer_iff hlog hlogged hout).2 ?_⟩
  obtain ⟨r, hr, hid, hread⟩ := exists_row_of_get hlog hget
  obtain ⟨-, hname, -⟩ := get_of_row hlog hr hread
  refine ⟨r, ?_, hread⟩
  rw [capped, if_pos (Int.le_refl 0), List.mem_filter, List.mem_filter, hname]
  exact ⟨⟨hr, decide_eq_true (by omega)⟩, hlike⟩

end Table

namespace Store

/-- Every record that a list or a poll with the pattern answers has the property. -/
structure AnswersOnly (s : Store) (pattern : String) (P : Record → Prop) : Prop where
  listCurrent : ∀ cursor limit withDeleted rows,
    s.listCurrent pattern cursor limit withDeleted = .ok rows → ∀ row ∈ rows, P row.record
  list : ∀ cursor limit revision withDeleted rows,
    s.list pattern cursor limit revision withDeleted = .ok rows → ∀ row ∈ rows, P row.record
  after : ∀ revision limit rows, s.after pattern revision limit = .ok rows →
    ∀ row ∈ rows, P row.record

namespace Serves

variable {s : Store} {t : Table} {rec : Record}

theorem get_eq (h : s.Serves t) {id : Int} {o : Option Record} :
    s.get id = .ok o ↔ t.get id = .ok o := by
  rw [Store.get, h.query, mapError_eq_ok]

theorem answersOnly_iff (h : s.Serves t) (hlog : ∀ r ∈ t.rows, r.Logged) {pattern : String}
    {P : Record → Prop} :
    s.AnswersOnly pattern P ↔ Pattern.isTooComplex pattern = true ∨
      ∀ rec, s.get rec.id = .ok (some rec) → (Cell.text rec.name).isLike pattern = true →
        P rec := by
  simp only [h.get_eq]
  constructor
  · intro hanswers
    rw [or_iff_not_imp_left, Bool.not_eq_true]
    intro hshort rec hget hlike
    obtain ⟨out, hafter, row, hrow, rfl⟩ := Table.exists_after hlog hshort hget hlike
    refine hanswers.after (row.record.id - 1) 0 out ?_ row hrow
    rw [Store.after, h.query, hafter]
    rfl
  · intro hall
    have hP : ∀ rec : Record, Pattern.isTooComplex pattern = false →
        t.get rec.id = .ok (some rec) → (Cell.text rec.name).isLike pattern = true → P rec := by
      intro rec hshort
      exact hall.resolve_left (by simp [hshort]) rec
    constructor
    · intro cursor limit withDeleted rows hrows row hrow
      rw [Store.listCurrent, h.query] at hrows
      obtain ⟨hshort, hget, hlike⟩ := Table.get_of_list hlog (mapError_eq_ok.1 hrows) hrow
      exact hP row.record hshort hget hlike
    · intro cursor limit revision withDeleted rows hrows row hrow
      rw [Store.list, h.query] at hrows
      obtain ⟨hshort, hget, hlike⟩ := Table.get_of_list hlog (mapError_eq_ok.1 hrows) hrow
      exact hP row.record hshort hget hlike
    · intro revision limit rows hrows row hrow
      rw [Store.after, h.query] at hrows
      obtain ⟨hshort, hget, hlike⟩ := Table.get_of_after hlog (mapError_eq_ok.1 hrows) hrow
      exact hP row.record hshort hget hlike

end Serves

end Store

end RevisionLog
