import RevisionLog.Proofs.Listing
import RevisionLog.Proofs.Sentinel
import RevisionLog.Proofs.Snapshot

/-!
# Counts, and the empty cursor

A count answers the number of rows that the list of the same selection answers without tombstones,
and with it the highest id of the whole log; one is refused where the other is
(`Table.count_eq_list`, `Store.counts_agree`).

The empty cursor is meant to come before every name. A list as of a revision takes it so, and does
not bound names; the other reads ask for names after the empty text, which the empty name is not.
They agree as long as no record has that name, and leave it out if one has (`Store.empty_cursor`,
`Store.empty_cursor_emptyName`).
-/

namespace RevisionLog

namespace Table

variable {t : Table} {q q' : Selection} {withDeleted : Bool}

/-! ## Selections of the same table -/

/-- A count answers the number of rows of the list, and is refused where the list is. -/
theorem count_eq_list (h : ∀ r ∈ t.rows, r.Logged) (q : Selection) :
    t.count q = (t.list q 0 false).map fun rows => (t.currentRevision, rows.length) := by
  by_cases hlet : Pattern.isTooComplex q.pattern = false ∨ t.compared q = []
  · rw [list_eq h 0 hlet, capped, if_pos (Int.le_refl 0), Except.map, List.length_map, count]
    rcases hlet with hp | hnil
    · simp [hp]
    · simp [hnil]
  · have hguard : (Pattern.isTooComplex q.pattern && !(t.compared q).isEmpty) = true := by
      simpa using hlet
    rw [count, list, if_pos hguard, if_pos hguard, Except.map]

theorem list_congr (hpattern : q'.pattern = q.pattern)
    (hfloor : ∀ r ∈ t.rows, q'.isPastFloor r = q.isPastFloor r)
    (hceiling : ∀ r ∈ t.rows, q'.isBelowCeiling r = q.isBelowCeiling r) (limit : Int)
    (withDeleted : Bool) : t.list q' limit withDeleted = t.list q limit withDeleted := by
  have hadmits : t.rows.filter q'.admits = t.rows.filter q.admits :=
    List.filter_congr fun r hr => by
      rw [Selection.admits, Selection.admits, hpattern, hfloor r hr, hceiling r hr]
  have hcompared : t.compared q' = t.compared q := by
    unfold compared
    split
    · exact List.filter_congr hfloor
    · exact List.filter_congr hceiling
  rw [list, list, select, select, hpattern, hcompared, hadmits]

/-- What leaves whole names out answers the rows of the others. -/
theorem select_filter (h : ∀ r ∈ t.rows, r.Logged) {p : StoredRow → Bool}
    (hname : ∀ r s, r.name = s.name → p r = p s)
    (hadmits : ∀ r ∈ t.rows, q'.admits r = (p r && q.admits r)) :
    t.select q' withDeleted = (t.select q withDeleted).filter p := by
  have hleft : t.rows.filter q'.admits = (t.rows.filter q.admits).filter p := by
    rw [List.filter_filter]
    exact List.filter_congr hadmits
  -- both ascend by name, so it is enough that they have the same rows
  have hasymm : ∀ r s : StoredRow, (t.shown r).record.name < (t.shown s).record.name →
      ¬ (t.shown s).record.name < (t.shown r).record.name := fun r s => String.lt_asymm
  have : Std.Irrefl fun r s : StoredRow => (t.shown r).record.name < (t.shown s).record.name :=
    ⟨fun r hlt => hasymm r r hlt hlt⟩
  have : Std.Antisymm fun r s : StoredRow => (t.shown r).record.name < (t.shown s).record.name :=
    ⟨fun r s hlt hgt => absurd hgt (hasymm r s hlt)⟩
  refine (select_ascending h).eq_of_mem_iff ((select_ascending h).filter p) fun r => ?_
  simp only [select, hleft, newestPerName_filter hname, List.mem_mergeSort, List.mem_filter]
  exact and_right_comm

/-- As a bound of names the empty cursor leaves out the empty name. -/
theorem select_empty (h : ∀ r ∈ t.rows, r.Logged) {pattern : String} {ceiling ceiling' : Option Int}
    (hceiling : ∀ r ∈ t.rows, (Selection.of pattern (some "") ceiling').isBelowCeiling r =
      (Selection.of pattern none ceiling).isBelowCeiling r) :
    (t.select (.of pattern (some "") ceiling') withDeleted).map t.shown =
      ((t.select (.of pattern none ceiling) withDeleted).map t.shown).filter
        (·.record.name ≠ "") := by
  have habove : ∀ r ∈ t.select (.of pattern none ceiling) withDeleted,
      r.name.isAbove (.text "") = decide ((t.shown r).record.name ≠ "") := fun r hr => by
    rw [name_eq_shown t (logged_select h r hr)]
    by_cases he : (t.shown r).record.name = ""
    · rw [he]
      rfl
    · rw [Cell.isAbove_text_empty he, decide_eq_true he]
  rw [select_filter h (p := fun r => r.name.isAbove (.text "")) (q := .of pattern none ceiling)
    (fun r s hn => by rw [hn]) fun r hr => ?_, List.filter_map]
  · exact congrArg _ (List.filter_congr habove)
  · have hpast : (Selection.of pattern (some "") ceiling').isPastFloor r =
        r.name.isAbove (.text "") := rfl
    have hall : (Selection.of pattern none ceiling).isPastFloor r = true := rfl
    rw [Selection.admits, Selection.admits, hceiling r hr, hpast, hall, Selection.of_pattern,
      Selection.of_pattern, Bool.and_true, Bool.and_left_comm, Bool.and_assoc]

end Table

/-! ## Stores -/

namespace Store

/-- The revision is the highest id of all records in the log, or 0 without any. -/
inductive IsHighest (s : Store) (revision : Int) : Prop
  | attained (rec : Record) : s.get rec.id = .ok (some rec) → rec.id = revision →
    (∀ other, s.get other.id = .ok (some other) → other.id ≤ revision) → IsHighest s revision
  | empty : revision = 0 → (∀ id, s.get id = .ok none) → IsHighest s revision

namespace Serves

variable {s : Store} {t : Table} {pattern cursor : String} {withDeleted : Bool}

theorem isHighest (h : s.Serves t) (hlog : ∀ r ∈ t.rows, r.Logged) :
    s.IsHighest t.currentRevision := by
  by_cases hnil : t.rows = []
  · refine .empty (by simp [Table.currentRevision, Table.maxId?, hnil]) fun id => ?_
    exact h.get_eq.2 (Table.get_none (by simp [hnil]))
  · obtain ⟨r, hr, hid⟩ := Table.exists_currentRevision hnil
    have hread := t.record?_eq_shown (hlog r hr)
    refine .attained _ ((h.got_iff hlog).2 ⟨r, hr, hread⟩)
      ((Table.get_of_row hlog hr hread).2.2.trans hid) fun other hgot => ?_
    obtain ⟨g, hg, hgread⟩ := (h.got_iff hlog).1 hgot
    rw [(Table.get_of_row hlog hg hgread).2.2]
    exact Table.le_currentRevision hg

theorem count_map (h : s.Serves t) (hlog : ∀ r ∈ t.rows, r.Logged) (q : Selection) :
    s.query (·.count q) =
      (s.query (·.list q 0 false)).map fun rows => (t.currentRevision, rows.length) := by
  rw [h.query, h.query, Table.count_eq_list hlog]
  cases t.list q 0 false <;> rfl

theorem list_ok (h : s.Serves t) (hlog : ∀ r ∈ t.rows, r.Logged) {q : Selection}
    (hp : Pattern.isTooComplex q.pattern = false) :
    s.query (·.list q 0 withDeleted) = .ok ((t.select q withDeleted).map t.shown) := by
  rw [h.query, Table.list_eq hlog 0 (.inl hp), capped, if_pos (Int.le_refl 0), mapError_ok]

end Serves

variable {s : Store}

theorem listCurrent_eq_query (s : Store) (pattern cursor : String) (limit : Int)
    (withDeleted : Bool) : s.listCurrent pattern cursor limit withDeleted =
      s.query (·.list (.of pattern (some cursor) none) limit withDeleted) := rfl

theorem count_eq_query (s : Store) (pattern cursor : String) (revision : Int) :
    s.count pattern cursor revision =
      s.query (·.count (.of pattern (some cursor) (some revision))) := rfl

/-- After any actions a count answers the highest id of the log and the number of rows of the list,
or is refused as the list is; lists answer unless the pattern is too long. -/
theorem counts_agree (hs : s.IsEmpty) (actions : List Action) :
    ∃ current, (s.actAll actions).currentRevision = .ok current ∧
      (s.actAll actions).IsHighest current ∧ ∀ pattern cursor,
        (s.actAll actions).countCurrent pattern cursor =
          ((s.actAll actions).listCurrent pattern cursor 0 false).map
            (fun rows => (current, rows.length)) ∧
        (∀ revision, cursor ≠ "" → (s.actAll actions).count pattern cursor revision =
          ((s.actAll actions).list pattern cursor 0 revision false).map
            fun rows => (current, rows.length)) ∧
        (Pattern.isTooComplex pattern = false →
          (∃ rows, (s.actAll actions).listCurrent pattern cursor 0 false = .ok rows) ∧
          ∀ revision, ∃ rows,
            (s.actAll actions).list pattern cursor 0 revision false = .ok rows) := by
  obtain ⟨t, last, ht, hreg, -⟩ := hs.actAll actions
  have hlog := hreg.logged
  refine ⟨t.currentRevision, ht.currentRevision, ht.isHighest hlog, fun pattern cursor =>
    ⟨ht.count_map hlog _, fun revision hc => ?_, fun hp =>
      ⟨⟨_, ht.list_ok hlog hp⟩, fun revision => ?_⟩⟩⟩
  · rw [list_eq_query, bound, if_neg hc, count_eq_query]
    exact ht.count_map hlog _
  · rw [list_eq_query]
    exact ⟨_, ht.list_ok hlog hp⟩

/-- As of revision 3 the key behind the cursor is buried; the counts carry revision 4 all the same. -/
theorem counts_agree_reborn : inMemory.IsEmpty ∧ "a" ≠ "" ∧
    (inMemory.actAll reborn).IsHighest 4 ∧
    (inMemory.actAll reborn).countCurrent "%" "a" = .ok (4, 1) ∧
    (inMemory.actAll reborn).count "%" "a" 3 = .ok (4, 0) := by
  have hread : (inMemory.actAll reborn).currentRevision = .ok 4 ∧
      ((inMemory.actAll reborn).listCurrent "%" "a" 0 false).map (·.length) = .ok 1 ∧
      ((inMemory.actAll reborn).list "%" "a" 0 3 false).map (·.length) = .ok 0 := by
    rw [inMemory_eq]
    decide +kernel
  obtain ⟨hcurrent, hall, hthen⟩ := hread
  obtain ⟨current, hc, hhighest, hcounts⟩ := counts_agree isEmpty_inMemory reborn
  rw [hc, Except.ok.injEq] at hcurrent
  subst hcurrent
  obtain ⟨hcurrent, hcount, hanswer⟩ := hcounts "%" "a"
  obtain ⟨⟨rows, hrows⟩, hrows'⟩ := hanswer (by decide)
  obtain ⟨rows', hrows'⟩ := hrows' 3
  rw [hrows, Except.map, Except.ok.injEq] at hall
  rw [hrows', Except.map, Except.ok.injEq] at hthen
  refine ⟨isEmpty_inMemory, by decide, hhighest, ?_, ?_⟩
  · rw [hcurrent, hrows, Except.map, hall]
  · rw [hcount 3 (by decide), hrows', Except.map, hthen]

/-- As long as no record has the empty name, the empty cursor comes before every name: the list of
all is the list as of any revision from the current one on, and a count answers the number of rows
of the list. In general the lists without a bound answer the records of the empty name besides. -/
theorem empty_cursor (hs : s.IsEmpty) (actions : List Action) :
    ∃ current, (s.actAll actions).currentRevision = .ok current ∧ ∀ pattern,
      ((s.actAll actions).versions "" = [] →
        (∀ withDeleted revision, current ≤ revision →
          (s.actAll actions).listCurrent pattern "" 0 withDeleted =
            (s.actAll actions).list pattern "" 0 revision withDeleted) ∧
        ∀ revision, (s.actAll actions).count pattern "" revision =
          ((s.actAll actions).list pattern "" 0 revision false).map
            fun rows => (current, rows.length)) ∧
      (Pattern.isTooComplex pattern = false →
        (∀ withDeleted revision, current ≤ revision →
          ∃ rows, (s.actAll actions).list pattern "" 0 revision withDeleted = .ok rows ∧
            (s.actAll actions).listCurrent pattern "" 0 withDeleted =
              .ok (rows.filter (·.record.name ≠ ""))) ∧
        ∀ revision, ∃ rows,
          (s.actAll actions).list pattern "" 0 revision false = .ok rows ∧
            (s.actAll actions).count pattern "" revision =
              .ok (current, (rows.filter (·.record.name ≠ "")).length)) := by
  obtain ⟨t, last, ht, hreg, -⟩ := hs.actAll actions
  have hlog := hreg.logged
  have hlists : ∀ pattern revision withDeleted,
      (s.actAll actions).list pattern "" 0 revision withDeleted = (s.actAll actions).query
        (·.list (.of pattern none (some revision)) 0 withDeleted) := fun _ _ _ => rfl
  -- a ceiling from the current revision on bounds nothing
  have hceiling : ∀ pattern revision, t.currentRevision ≤ revision → ∀ r ∈ t.rows,
      (Selection.of pattern (some "") none).isBelowCeiling r =
        (Selection.of pattern none (some revision)).isBelowCeiling r := fun _ _ hle r hr =>
    (decide_eq_true ((Table.le_currentRevision hr).trans hle)).symm
  refine ⟨t.currentRevision, ht.currentRevision, fun pattern =>
    ⟨fun hnone => ?_, fun hp => ⟨fun withDeleted revision hle => ?_, fun revision => ?_⟩⟩⟩
  · rw [ht.versions_eq] at hnone
    have hfloor : ∀ ceiling ceiling', ∀ r ∈ t.rows,
        (Selection.of pattern (some "") ceiling).isPastFloor r =
          (Selection.of pattern none ceiling').isPastFloor r := fun _ _ r hr =>
      Table.OfLog.isAbove_empty ⟨hlog, hreg.counter⟩ hnone hr
    refine ⟨fun withDeleted revision hle => ?_, fun revision => ?_⟩
    · have hsame : t.list (.of pattern (some "") none) 0 withDeleted =
          t.list (.of pattern none (some revision)) 0 withDeleted :=
        Table.list_congr (q := .of pattern none (some revision)) (Selection.of_pattern pattern _ _)
          (hfloor _ _) (hceiling pattern revision hle) 0 withDeleted
      rw [hlists, listCurrent_eq_query, ht.query, ht.query, hsame]
    · have hsame : t.list (.of pattern (some "") (some revision)) 0 false =
          t.list (.of pattern none (some revision)) 0 false :=
        Table.list_congr (q := .of pattern none (some revision)) (Selection.of_pattern pattern _ _)
          (hfloor _ _) (fun _ _ => rfl) 0 false
      rw [hlists, count_eq_query, ht.count_map hlog, ht.query, ht.query, hsame]
  · refine ⟨_, (hlists pattern revision withDeleted).trans (ht.list_ok hlog hp), ?_⟩
    rw [← Table.select_empty hlog (hceiling pattern revision hle)]
    exact ht.list_ok hlog hp
  · refine ⟨_, (hlists pattern revision false).trans (ht.list_ok hlog hp), ?_⟩
    rw [← Table.select_empty hlog fun _ _ => rfl, count_eq_query, ht.count_map hlog,
      ht.list_ok hlog hp]
    rfl

/-- Without an empty name the list of all is the list as of revision 9. -/
theorem empty_cursor_reborn : inMemory.IsEmpty ∧
    (inMemory.actAll reborn).versions "" = [] ∧ Pattern.isTooComplex "%" = false ∧
    (inMemory.actAll reborn).listCurrent "%" "" 0 false =
      (inMemory.actAll reborn).list "%" "" 0 9 false ∧
    ∃ rows, (inMemory.actAll reborn).list "%" "" 0 2 false = .ok rows ∧
      (inMemory.actAll reborn).count "%" "" 2 = .ok (4, rows.length) := by
  have hread : (inMemory.actAll reborn).currentRevision = .ok 4 ∧
      (inMemory.actAll reborn).versions "" = [] := by
    rw [inMemory_eq]
    decide +kernel
  obtain ⟨hcurrent, hnone⟩ := hread
  obtain ⟨current, hc, h⟩ := empty_cursor isEmpty_inMemory reborn
  rw [hc, Except.ok.injEq] at hcurrent
  subst hcurrent
  obtain ⟨hlist, hcount⟩ := (h "%").1 hnone
  obtain ⟨rows, hrows, -⟩ := ((h "%").2 (by decide)).2 2
  refine ⟨isEmpty_inMemory, hnone, by decide, hlist false 9 (by decide), rows, hrows, ?_⟩
  rw [hcount, hrows, Except.map]

/-- A record is created under the empty name. -/
def emptyName : List Action := [.insert (.create "" [1])]

/-- The list as of a revision shows the record of the empty name. The list of all and the count as
of the same revision leave it out. -/
theorem empty_cursor_emptyName : inMemory.IsEmpty ∧
    (inMemory.actAll emptyName).currentRevision = .ok 1 ∧
    (inMemory.actAll emptyName).listCurrent "%" "" 0 false = .ok [] ∧
    (inMemory.actAll emptyName).list "%" "" 0 1 false =
      .ok [⟨1, 0, (Draft.create "" [1]).readBack 1⟩] ∧
    (inMemory.actAll emptyName).count "%" "" 1 = .ok (1, 0) := by
  refine ⟨isEmpty_inMemory, ?_⟩
  rw [inMemory_eq]
  decide +kernel

end Store

end RevisionLog
