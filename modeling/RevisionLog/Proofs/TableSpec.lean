import RevisionLog.Engine.Query
import RevisionLog.Proofs.LoggedRow
import RevisionLog.Proofs.RowLength

/-!
# What the operations of a table do

One specification for each operation that the log uses, on a table whose ids come from a counter:

* `append_cases` — the outcomes of putting a row in under a new id: there may be no id, the place
  may be taken, and a row that finds its place free may be too long; `append_inv` and `append_fits`
  say what was done if it was put in.
* `mem_marks_iff`, `marks_append` — which marks the rows of the sentinel keep.
* `compactRevision_eq`, `answer_eq`, `get_ok` — a table that only the log has written can be read;
  each row gives one row of an answer (`Table.shown`), with the two revisions of the table.
* `sweep_ok` — a sweep goes up to the watermark at most, and never fails.

`Table.versions` are the records of a name that are in the table, the oldest first.
-/

namespace RevisionLog

/-- The records of a name that are in the table, the oldest first. -/
def Table.versions (t : Table) (name : String) : List Record :=
  (t.rows.filter (·.name == .text name)).filterMap (·.record?)

/-- The record of a name with the highest id. -/
def Table.latest (t : Table) (name : String) : Option Record := (t.versions name).getLast?

/-- The last entry of a list that ascends is the highest. -/
theorem le_of_getLast? {α : Type} {f : α → Int} {xs : List α} (hx : xs.Pairwise (f · < f ·)) {l : α}
    (hl : xs.getLast? = some l) : ∀ a ∈ xs, f a ≤ f l := by
  obtain ⟨init, rfl⟩ := List.getLast?_eq_some_iff.1 hl
  intro a ha
  rcases List.mem_append.1 ha with ha | ha
  · exact Int.le_of_lt ((List.pairwise_append.1 hx).2.2 a ha l (.head _))
  · cases List.mem_singleton.1 ha
    exact Int.le_refl _

namespace Table

/-- Only the log has written the table, its ids come from a counter, and an index lets a name and a
predecessor stand together only once. -/
structure Regular (t : Table) : Prop where
  logged : ∀ r ∈ t.rows, r.Logged
  counter : ∃ last, t.ids = .counter last
  unique : t.isUnique = true

variable {t t' : Table} {last id : Int} {row : Int → StoredRow}

/-! ## Putting a row in -/

theorem lt_of_counter (hc : t.ids = .counter last) (hid : last < id) :
    ∀ r ∈ t.rows, r.id < id := fun r hr => by
  have := (t.counted last hc).2 r hr
  omega

/-- A row under the next id is the only one. -/
theorem id_fresh (hc : t.ids = .counter last) {r : StoredRow} (hid : r.id = last + 1) :
    ¬ ∃ r' ∈ t.rows, r'.id = r.id := by
  rintro ⟨r', hr', he⟩
  have := lt_of_counter hc (Int.lt_succ last) r' hr'
  omega

theorem append_full (hc : t.ids = .counter last) (hfull : maxInt ≤ last) :
    t.append row = .error .full := by
  have : ¬ last < maxInt := by omega
  simp [append, nextId, hc, this]

theorem append_of_room (hc : t.ids = .counter last) (hroom : last < maxInt) :
    t.append row = (t.add (row (last + 1))).map fun t => (last + 1, t) := by
  simp [append, nextId, hc, hroom]

theorem append_taken (hc : t.ids = .counter last) (hroom : last < maxInt)
    (hrow : (row (last + 1)).id = last + 1) (hu : t.isUnique = true)
    (htaken : ∃ r ∈ t.rows, r.clashes (row (last + 1)) = true) :
    t.append row = .error .placeTaken := by
  rw [append_of_room hc hroom, add, dif_neg (id_fresh hc hrow), if_pos (by simpa [hu] using htaken)]
  rfl

/-- A row that finds its place free is only measured. -/
theorem append_free (hc : t.ids = .counter last) (hroom : last < maxInt)
    (hrow : (row (last + 1)).id = last + 1)
    (hfree : ¬ ∃ r ∈ t.rows, r.clashes (row (last + 1)) = true) :
    (row (last + 1)).fits = true ∧ (∃ t', t.append row = .ok (last + 1, t')) ∨
      (row (last + 1)).fits = false ∧ t.append row = .error .tooBig := by
  have hplace : ¬ (t.isUnique && t.rows.any (·.clashes (row (last + 1)))) = true := fun hp =>
    hfree (List.any_eq_true.1 (Bool.and_eq_true_iff.1 hp).2)
  rw [append_of_room hc hroom, add, dif_neg (id_fresh hc hrow), if_neg hplace]
  cases (row (last + 1)).fits with
  | true => exact .inl ⟨rfl, _, rfl⟩
  | false => exact .inr ⟨rfl, rfl⟩

/-- A row finds no id left, or its place taken, or is too long, or is put in. -/
theorem append_cases (hc : t.ids = .counter last) (hu : t.isUnique = true)
    (row : Int → StoredRow) (hrow : ∀ i, (row i).id = i) :
    let taken := ∃ r ∈ t.rows, r.clashes (row (last + 1)) = true
    (t.append row = .error .full ∧ maxInt ≤ last) ∨
      (t.append row = .error .placeTaken ∧ last < maxInt ∧ taken) ∨
      (t.append row = .error .tooBig ∧ last < maxInt ∧ ¬ taken ∧
        (row (last + 1)).fits = false) ∨
      (∃ t', t.append row = .ok (last + 1, t')) ∧ last < maxInt ∧ ¬ taken ∧
        (row (last + 1)).fits = true := by
  intro taken
  rcases Int.lt_or_le last maxInt with hroom | hfull
  · by_cases htaken : taken
    · exact .inr (.inl ⟨append_taken hc hroom (hrow _) hu htaken, hroom, htaken⟩)
    · rcases append_free hc hroom (hrow _) htaken with ⟨hfits, hok⟩ | ⟨hlong, he⟩
      · exact .inr (.inr (.inr ⟨hok, hroom, htaken, hfits⟩))
      · exact .inr (.inr (.inl ⟨he, hroom, htaken, hlong⟩))
  · exact .inl ⟨append_full hc hfull, hfull⟩

theorem add_inv {r : StoredRow} (h : t.add r = .ok t') :
    r.fits = true ∧ t'.rows = r.place t.rows ∧ t'.ids = t.ids.noting r.id ∧
      t'.indexes = t.indexes := by
  unfold add at h
  split at h
  · cases h
  split at h
  · cases h
  split at h
  · cases h
  · rename_i hfits
    cases h
    exact ⟨by simpa using hfits, rfl, rfl, rfl⟩

theorem add_of_append (h : t.append row = .ok (id, t')) :
    t.nextId = some id ∧ t.add (row id) = .ok t' := by
  unfold append at h
  split at h
  · cases h
  · rename_i next hnext
    cases hadd : t.add (row next) with
    | error e =>
      rw [hadd] at h
      cases h
    | ok t₁ =>
      rw [hadd] at h
      cases h
      exact ⟨hnext, hadd⟩

/-- A row that was put in stands behind the others, under the next id. -/
theorem append_inv (hc : t.ids = .counter last) (hrow : ∀ i, (row i).id = i)
    (h : t.append row = .ok (id, t')) :
    id = last + 1 ∧ t'.rows = t.rows ++ [row id] ∧ t'.ids = .counter id ∧
      t'.indexes = t.indexes := by
  obtain ⟨hnext, hadd⟩ := add_of_append h
  obtain ⟨-, hrows, hids, hix⟩ := add_inv hadd
  have hid : id = last + 1 := by
    simp only [nextId, hc] at hnext
    split at hnext
    · exact (Option.some.inj hnext).symm
    · cases hnext
  have hpos := (t.counted last hc).1
  have hnew : ∀ r ∈ t.rows, r.id < (row id).id := by
    rw [hrow]
    exact lt_of_counter hc (by omega)
  refine ⟨hid, hrows.trans (StoredRow.place_eq_append hnew), hids.trans ?_, hix⟩
  simp only [hc, IdSource.noting, hrow, IdSource.counter.injEq]
  omega

/-- A row that was put in is not too long. -/
theorem append_fits (h : t.append row = .ok (id, t')) : (row id).fits = true :=
  (add_inv (add_of_append h).2).1

theorem append_counter (hc : t.ids = .counter last) (hrow : ∀ i, (row i).id = i)
    (h : t.append row = .ok (id, t')) :
    ∃ last', t'.ids = .counter last' ∧ last ≤ last' ∧ last' ≤ last + 1 := by
  obtain ⟨rfl, -, hids, -⟩ := append_inv hc hrow h
  exact ⟨_, hids, by omega, by omega⟩

/-! ## Reading -/

theorem le_currentRevision {r : StoredRow} (hr : r ∈ t.rows) : r.id ≤ t.currentRevision := by
  cases hl : t.rows.getLast? with
  | none => simp [List.getLast?_eq_none_iff.1 hl] at hr
  | some l =>
    have hcur : t.currentRevision = l.id := by simp [currentRevision, maxId?, hl]
    rw [hcur]
    exact le_of_getLast? (f := StoredRow.id) t.ascending hl r hr

theorem currentRevision_le (hc : t.ids = .counter last) : t.currentRevision ≤ last := by
  obtain ⟨hpos, hle⟩ := t.counted last hc
  cases hl : t.rows.getLast? with
  | none => simpa [currentRevision, maxId?, hl] using hpos
  | some r => simpa [currentRevision, maxId?, hl] using hle r (List.mem_of_getLast? hl)

/-- The current revision is that of a row, if there is one. -/
theorem exists_currentRevision (h : t.rows ≠ []) : ∃ r ∈ t.rows, r.id = t.currentRevision := by
  obtain ⟨r, hr⟩ : ∃ r, t.rows.getLast? = some r := by
    cases hl : t.rows.getLast? with
    | none => exact absurd (List.getLast?_eq_none_iff.1 hl) h
    | some r => exact ⟨r, rfl⟩
  exact ⟨r, List.mem_of_getLast? hr, by simp [currentRevision, maxId?, hr]⟩

/-- A new row is the current one. -/
theorem currentRevision_append (hc : t.ids = .counter last) (hrow : ∀ i, (row i).id = i)
    (h : t.append row = .ok (id, t')) : t'.currentRevision = id := by
  obtain ⟨-, hrows, -⟩ := append_inv hc hrow h
  simp [currentRevision, maxId?, hrows, hrow]

theorem currentCell_eq (t : Table) : t.currentCell = .ofInt? t.maxId? := by
  unfold currentCell
  cases t.maxId? <;> rfl

/-- The marks that the rows of the sentinel keep. -/
def marks (t : Table) : List Int :=
  (t.rows.filter (·.isSentinel)).filterMap (·.prevRevision.int?)

/-- The greatest mark, or 0 without any. -/
def watermark (t : Table) : Int := t.marks.max?.getD 0

theorem mem_marks_iff (h : ∀ r ∈ t.rows, r.Logged) {w : Int} :
    w ∈ t.marks ↔ ∃ r ∈ t.rows, r.isSentinel = true ∧ r.prevRevision = .int w := by
  simp only [marks, List.mem_filterMap, List.mem_filter]
  constructor
  · rintro ⟨r, ⟨hr, hs⟩, hw⟩
    obtain ⟨i, hi⟩ := (h r hr).prevRevision_int
    rw [hi] at hw
    cases hw
    exact ⟨r, hr, hs, hi⟩
  · rintro ⟨r, hr, hs, hw⟩
    exact ⟨r, ⟨hr, hs⟩, by rw [hw]; rfl⟩

/-- What takes the place of a mark is the same mark. -/
theorem mem_marks_iff_clashes (h : ∀ r ∈ t.rows, r.Logged) {w : Int} (id : Int) :
    w ∈ t.marks ↔ ∃ r ∈ t.rows, r.clashes (.watermark w id) = true := by
  rw [mem_marks_iff h]
  refine exists_congr fun r => and_congr_right fun hr => ?_
  obtain ⟨i, hi⟩ := (h r hr).prevRevision_int
  simp [StoredRow.clashes, StoredRow.isSentinel, hi]

/-- Another row keeps one mark more, if it is of the sentinel. -/
theorem marks_append (hc : t.ids = .counter last) (hrow : ∀ i, (row i).id = i)
    (h : t.append row = .ok (id, t')) :
    t'.marks = t.marks ++
      if (row id).isSentinel then (row id).prevRevision.int?.toList else [] := by
  obtain ⟨-, hrows, -⟩ := append_inv hc hrow h
  rw [marks, marks, hrows, List.filter_append, List.filterMap_append]
  congr 1
  cases hs : (row id).isSentinel with
  | false => simp [hs]
  | true =>
    rw [List.filter_cons_of_pos hs, List.filterMap_cons]
    cases (row id).prevRevision.int? <;> rfl

theorem map_prevRevision {rs : List StoredRow} (h : ∀ r ∈ rs, r.Logged) :
    rs.map (·.prevRevision) = (rs.filterMap (·.prevRevision.int?)).map .int := by
  induction rs with
  | nil => rfl
  | cons r rs ih =>
    obtain ⟨i, hi⟩ := (h r (.head _)).prevRevision_int
    simp [ih fun r hr => h r (.tail _ hr), hi, Cell.int?]

theorem watermarkCell_eq (h : ∀ r ∈ t.rows, r.Logged) : t.watermarkCell = .ofInt? t.marks.max? := by
  rw [watermarkCell, map_prevRevision fun r hr => h r (List.mem_filter.1 hr).1]
  exact Cell.foldl_max_null t.marks

theorem compactRevision_eq (h : ∀ r ∈ t.rows, r.Logged) : t.compactRevision = .ok t.watermark := by
  simp [compactRevision, watermarkCell_eq h, watermark, Except.map]

/-- The row of an answer that a row of the table gives. -/
def shown (t : Table) (r : StoredRow) : Row where
  currentRevision := t.currentRevision
  compactRevision := t.watermark
  record := r.record?.getD default

theorem record?_eq_shown (t : Table) {r : StoredRow} (h : r.Logged) :
    r.record? = some (t.shown r).record := by
  obtain ⟨rec, hrec, -⟩ := h.record?_eq
  simp [shown, hrec]

theorem read_eq_shown (h : ∀ r ∈ t.rows, r.Logged) {r : StoredRow} (hr : r.Logged) :
    (r.read t.currentCell t.watermarkCell).map (·.toRow) = .ok (t.shown r) := by
  obtain ⟨raw, hraw, hcurrent, hcompact, hrec⟩ := hr.read t.maxId? t.marks.max?
  rw [currentCell_eq, watermarkCell_eq h, hraw, Except.map, shown, hrec, currentRevision,
    watermark, ← hcurrent, ← hcompact]
  rfl

/-- Rows that the log has written are answered one by one. -/
theorem answer_eq (h : ∀ r ∈ t.rows, r.Logged) {rows : List StoredRow}
    (hrows : ∀ r ∈ rows, r.Logged) : t.answer rows = .ok (rows.map t.shown) := by
  induction rows with
  | nil => rfl
  | cons r rows ih =>
    have hrest := ih fun r hr => hrows r (.tail _ hr)
    rw [answer] at hrest ⊢
    rw [List.mapM_cons, hrest, read_eq_shown h (hrows r (.head _))]
    rfl

/-- They are answered with their records. -/
theorem answer_ok (h : ∀ r ∈ t.rows, r.Logged) {rows : List StoredRow}
    (hrows : ∀ r ∈ rows, r.Logged) :
    ∃ out, t.answer rows = .ok out ∧ out.map (·.record) = rows.filterMap (·.record?) := by
  refine ⟨_, answer_eq h hrows, ?_⟩
  clear h
  induction rows with
  | nil => rfl
  | cons r rows ih =>
    rw [List.filterMap_cons_some (record?_eq_shown t (hrows r (.head _))),
      ← ih fun r hr => hrows r (.tail _ hr)]
    rfl

/-- The records of an answer are those of its rows. -/
theorem exists_answer_iff (h : ∀ r ∈ t.rows, r.Logged) {rows : List StoredRow}
    (hrows : ∀ r ∈ rows, r.Logged) {out : List Row} (hout : t.answer rows = .ok out) {rec : Record} :
    (∃ row ∈ out, row.record = rec) ↔ ∃ r ∈ rows, r.record? = some rec := by
  obtain ⟨out', hout', hrec⟩ := answer_ok h hrows
  rw [hout, Except.ok.injEq] at hout'
  rw [← List.mem_filterMap, ← hrec, ← hout', List.mem_map]

/-- The rows of an answer carry the two revisions of the table. -/
theorem answer_stamped (h : ∀ r ∈ t.rows, r.Logged) {rows : List StoredRow}
    (hrows : ∀ r ∈ rows, r.Logged) {out : List Row} (hout : t.answer rows = .ok out) :
    ∀ row ∈ out, row.currentRevision = t.currentRevision ∧ row.compactRevision = t.watermark := by
  rw [answer_eq h hrows, Except.ok.injEq] at hout
  intro row hrow
  obtain ⟨r, -, rfl⟩ := List.mem_map.1 (hout ▸ hrow)
  exact ⟨rfl, rfl⟩

/-- Getting a record never fails. -/
theorem get_ok (h : ∀ r ∈ t.rows, r.Logged) (id : Int) :
    t.get id = .ok ((t.find? id).bind (·.record?)) := by
  cases hf : t.find? id with
  | none => simp [get, hf]
  | some r =>
    obtain ⟨raw, hraw, -, -, hr⟩ := (h r (List.mem_of_find?_eq_some hf)).read (some 0) (some 0)
    have h0 : r.read (.int 0) (.int 0) = .ok raw := hraw
    simp [get, hf, h0, hr, Except.map]

/-- The row of an id is found. -/
theorem find?_id {r : StoredRow} (hr : r ∈ t.rows) : t.find? r.id = some r := by
  obtain ⟨before, behind, he⟩ := List.append_of_mem hr
  have hlt := t.ascending
  rw [he, List.pairwise_append] at hlt
  refine List.find?_eq_some_iff_append.2 ⟨by simp, before, behind, he, fun b hb => ?_⟩
  have := hlt.2.2 b hb r (.head _)
  simp
  omega

theorem eq_of_id {r r' : StoredRow} (hr : r ∈ t.rows) (hr' : r' ∈ t.rows) (h : r.id = r'.id) :
    r = r' := by
  have hf := find?_id hr
  rw [h, find?_id hr', Option.some.injEq] at hf
  exact hf.symm

/-- The versions of a name are what can be got of it. -/
theorem mem_versions_iff (h : ∀ r ∈ t.rows, r.Logged) {name : String} {rec : Record} :
    rec ∈ t.versions name ↔ t.get rec.id = .ok (some rec) ∧ rec.name = name := by
  rw [get_ok h]
  simp only [versions, List.mem_filterMap, List.mem_filter, beq_iff_eq, Except.ok.injEq]
  constructor
  · rintro ⟨r, ⟨hr, hname⟩, hrec⟩
    obtain ⟨rec', hrec', hid, hname'⟩ := (h r hr).record?_eq
    rw [hrec, Option.some.injEq] at hrec'
    subst hrec'
    rw [hid, find?_id hr]
    exact ⟨hrec, by simpa [hname'] using hname⟩
  · rintro ⟨hget, rfl⟩
    obtain ⟨r, hf, hrec⟩ := Option.bind_eq_some_iff.1 hget
    have hr := List.mem_of_find?_eq_some hf
    obtain ⟨rec', hrec', -, hname'⟩ := (h r hr).record?_eq
    rw [hrec, Option.some.injEq] at hrec'
    subst hrec'
    exact ⟨r, ⟨hr, hname'⟩, hrec⟩

/-- Without the row of an id there is none to get. -/
theorem get_none (h : ∀ r ∈ t.rows, r.id ≠ id) : t.get id = .ok none := by
  have : t.find? id = none := List.find?_eq_none.2 fun r hr => by simp [h r hr]
  simp [get, this]

/-! ## Sweeps -/

@[simp] theorem sweepTo_target (t : Table) (target : Int) :
    (t.sweepTo target).1.target = target := rfl

/-- A sweep goes up to the watermark at most; without one to go up to it leaves the table as it
is. -/
theorem sweep_ok (h : ∀ r ∈ t.rows, r.Logged) (revision : Int) :
    ∃ done, done.target = min revision t.watermark ∧
      t.sweep revision =
        .ok (done, if 0 < done.target then (t.sweepTo done.target).2 else t) := by
  have hw := compactRevision_eq h
  by_cases hpos : 0 < min revision t.watermark
  · exact ⟨(t.sweepTo (min revision t.watermark)).1, rfl, by
      simp [sweep, hw, hpos, bind, Except.bind, pure, Except.pure]⟩
  · exact ⟨⟨min revision t.watermark, 0⟩, rfl, by
      simp [sweep, hw, hpos, bind, Except.bind, pure, Except.pure]⟩

@[simp] theorem sweepTo_rows (t : Table) (target : Int) :
    (t.sweepTo target).2.rows = t.rows.filter fun r => !t.isSwept target r := rfl

end Table

end RevisionLog
