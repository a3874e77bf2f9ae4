import RevisionLog.Proofs.CompactionReads

/-!
# Snapshots

As long as nothing is removed, a revision is a snapshot: a list or a count as of the revision that
was current at some time answers, whatever has been added since, what the list or the count of the
current records answered then (`Store.list_snapshot`). Any draft may be inserted, in order or not.

What is added stands behind the rows that were there, under higher ids (`Table.Extends`), so the
ceiling of a selection cuts off just that (`Extends.filter_admits`). With a pattern that is too long
a read as of a revision may be refused though nothing was selected then: the engine compares the
pattern with rows above the revision as well (`Store.list_snapshot_refused`).
-/

namespace RevisionLog

/-- A write that only adds to the log. -/
inductive Addition
  | insert (draft : Draft)
  | setCompactRevision (revision : Int)

/-- The row that is added, under an id. -/
def Addition.row : Addition → Int → StoredRow
  | insert draft => draft.row
  | setCompactRevision revision => .watermark revision

namespace Addition

variable (a : Addition)

@[simp] theorem row_id (id : Int) : (a.row id).id = id := by
  cases a <;> rfl

theorem cells_row (id : Int) : (a.row id).cells = (a.row 0).cells := by
  cases a <;> rfl

theorem row_logged (id : Int) : (a.row id).Logged := by
  cases a with
  | insert draft => exact .record (draft.stored id)
  | setCompactRevision revision => exact .watermark revision id

end Addition

/-! ## Tables that grow -/

namespace Table

/-- Only the log has written the table, and its ids come from a counter. -/
structure OfLog (t : Table) : Prop where
  logged : ∀ r ∈ t.rows, r.Logged
  counter : ∃ last, t.ids = .counter last

/-- The table `t'` has what `t` has, and behind it rows above the revision of `t`. -/
structure Extends (t t' : Table) : Prop where
  indexes : t'.indexes = t.indexes
  rows : ∃ new, t'.rows = t.rows ++ new ∧ ∀ r ∈ new, t.currentRevision < r.id

variable {t t' t'' : Table} {q q' : Selection}

/-- Another row stands behind the others, above their revision. -/
theorem OfLog.append (h : t.OfLog) (a : Addition) {id : Int} (ha : t.append a.row = .ok (id, t')) :
    t'.OfLog ∧ t.Extends t' := by
  obtain ⟨last, hids⟩ := h.counter
  obtain ⟨rfl, hrows, hids', hix⟩ := append_inv hids a.row_id ha
  have hcurrent := currentRevision_le hids
  refine ⟨⟨fun r hr => ?_, _, hids'⟩, hix, [a.row (last + 1)], hrows, fun r hr => ?_⟩
  · rw [hrows] at hr
    rcases List.mem_append.1 hr with hr | hr
    · exact h.logged r hr
    · exact List.mem_singleton.1 hr ▸ a.row_logged (last + 1)
  · rw [List.mem_singleton.1 hr, a.row_id]
    omega

namespace Extends

theorem refl (t : Table) : t.Extends t := ⟨rfl, [], by simp, by simp⟩

theorem mem (h : t.Extends t') {r : StoredRow} (hr : r ∈ t.rows) : r ∈ t'.rows := by
  obtain ⟨new, hrows, -⟩ := h.rows
  rw [hrows]
  exact List.mem_append_left new hr

theorem currentRevision_le (h : t.Extends t') : t.currentRevision ≤ t'.currentRevision := by
  cases hl : t.rows.getLast? with
  | some l =>
    have hcur : t.currentRevision = l.id := by simp [currentRevision, maxId?, hl]
    rw [hcur]
    exact le_currentRevision (h.mem (List.mem_of_getLast? hl))
  | none =>
    obtain ⟨new, hrows, hnew⟩ := h.rows
    rw [List.getLast?_eq_none_iff.1 hl, List.nil_append] at hrows
    cases hl' : t'.rows.getLast? with
    | none => simp [currentRevision, maxId?, hl, hl']
    | some l =>
      have hlt := hnew l (hrows ▸ List.mem_of_getLast? hl')
      have hcur : t'.currentRevision = l.id := by simp [currentRevision, maxId?, hl']
      omega

theorem trans (h : t.Extends t') (h' : t'.Extends t'') : t.Extends t'' := by
  have hle := h.currentRevision_le
  obtain ⟨new, hrows, hnew⟩ := h.rows
  obtain ⟨new', hrows', hnew'⟩ := h'.rows
  refine ⟨h'.indexes.trans h.indexes, new ++ new', ?_, fun r hr => ?_⟩
  · rw [hrows', hrows, List.append_assoc]
  · rcases List.mem_append.1 hr with hr | hr
    · exact hnew r hr
    · have := hnew' r hr
      omega

end Extends

/-- The selection `q'` is `q` as of the revision of `t`. Only one of them may bound names, if all
the names in `t` are past the bound. -/
structure AsOf (t : Table) (q q' : Selection) : Prop where
  pattern : q'.pattern = q.pattern
  unbounded : q.ceiling = none
  ceiling : q'.ceiling = some t.currentRevision
  floor : ∀ r ∈ t.rows, q'.isPastFloor r = q.isPastFloor r

namespace AsOf

/-- As of the old revision a selection admits what it admitted then. -/
theorem filter_admits (hq : t.AsOf q q') (h : t.Extends t') :
    t'.rows.filter q'.admits = t.rows.filter q.admits := by
  obtain ⟨new, hrows, hnew⟩ := h.rows
  have hcut : new.filter q'.admits = [] := by
    refine List.filter_eq_nil_iff.2 fun r hr => ?_
    have := hnew r hr
    simp only [Selection.admits, Selection.isBelowCeiling, hq.ceiling, Bool.and_eq_true,
      decide_eq_true_eq, not_and]
    omega
  rw [hrows, List.filter_append, hcut, List.append_nil]
  refine List.filter_congr fun r hr => ?_
  have hle := le_currentRevision hr
  simp [Selection.admits, Selection.isBelowCeiling, hq.pattern, hq.unbounded, hq.ceiling,
    hq.floor r hr, hle]

theorem select_eq (hq : t.AsOf q q') (h : t.Extends t') (withDeleted : Bool) :
    t'.select q' withDeleted = t.select q withDeleted := by
  rw [select, select, hq.filter_admits h]

/-- What was compared with the pattern is compared again. -/
theorem compared_nil (hq : t.AsOf q q') (h : t.Extends t') (hnil : t'.compared q' = []) :
    t.compared q = [] := by
  refine List.eq_nil_iff_forall_not_mem.2 fun r hr => ?_
  have hr' : r ∈ t'.compared q' := by
    rw [compared, List.mem_filter] at hr ⊢
    refine ⟨h.mem hr.1, ?_⟩
    have hle := le_currentRevision hr.1
    rw [hasNameOrder, h.indexes, ← hasNameOrder]
    split
    · rename_i hname
      rw [if_pos hname] at hr
      exact (hq.floor r hr.1).trans hr.2
    · simpa [Selection.isBelowCeiling, hq.ceiling] using hle
  rw [hnil] at hr'
  cases hr'

theorem list_alike (hq : t.AsOf q q') (h : t.Extends t') (ht : t.OfLog) (ht' : t'.OfLog)
    (limit : Int) (withDeleted : Bool) :
    Alike q'.pattern Fault.tooComplex [] (recordsOf (t'.list q' limit withDeleted))
      (recordsOf (t.list q limit withDeleted)) :=
  Table.list_alike ht'.logged ht.logged hq.pattern.symm (hq.select_eq h withDeleted).symm
    (hq.compared_nil h) limit

theorem count_alike (hq : t.AsOf q q') (h : t.Extends t') :
    Alike q'.pattern Fault.tooComplex 0 (numberOf (t'.count q')) (numberOf (t.count q)) :=
  Table.count_alike hq.pattern.symm (hq.select_eq h false).symm (hq.compared_nil h)

end AsOf

/-- Every name comes after the empty one, but that itself. -/
theorem OfLog.isAbove_empty (h : t.OfLog) (hnone : t.versions "" = []) {r : StoredRow}
    (hr : r ∈ t.rows) : r.name.isAbove (.text "") = true := by
  obtain ⟨rec, hrec, -, hname⟩ := (h.logged r hr).record?_eq
  rw [hname]
  refine Cell.isAbove_text_empty fun he => ?_
  have hmem : rec ∈ t.versions "" :=
    List.mem_filterMap.2 ⟨r, List.mem_filter.2 ⟨hr, by simp [hname, he]⟩, hrec⟩
  rw [hnone] at hmem
  cases hmem

/-- A list as of a revision answers no record above it. -/
theorem OfLog.list_le (h : t.OfLog) {revision limit : Int} {withDeleted : Bool} {rows : List Row}
    (hc : q.ceiling = some revision) (hlist : t.list q limit withDeleted = .ok rows) :
    ∀ row ∈ rows, row.record.id ≤ revision := by
  intro row hrow
  obtain ⟨r, hr, hread⟩ :=
    (exists_answer_iff h.logged (logged_list h.logged) (answer_of_list hlist)).1 ⟨row, hrow, rfl⟩
  obtain ⟨hr, hadmits⟩ := mem_of_mem_select (mem_of_mem_capped hr)
  obtain ⟨rec, hrec, hid, -⟩ := (h.logged r hr).record?_eq
  rw [hread, Option.some.injEq] at hrec
  simp only [Selection.admits, Selection.isBelowCeiling, hc, Bool.and_eq_true, decide_eq_true_eq]
    at hadmits
  rw [hrec, hid]
  exact hadmits.2

end Table

/-! ## Stores that are added to -/

namespace Store

/-- The store after something was added, if nothing prevented it. -/
def add (s : Store) : Addition → Store
  | .insert draft => (s.insert draft).2
  | .setCompactRevision revision => (s.setCompactRevision revision).2

/-- The store after additions, one after another. -/
def addAll (s : Store) (additions : List Addition) : Store := additions.foldl add s

theorem add_eq (s : Store) (a : Addition) : s.add a = (s.append a.row).2 := by
  cases a with
  | insert draft => exact s.insert_snd draft
  | setCompactRevision revision => exact s.setCompactRevision_snd revision

theorem dialect_addAll (s : Store) (additions : List Addition) :
    (s.addAll additions).dialect = s.dialect := by
  induction additions generalizing s with
  | nil => rfl
  | cons a additions ih =>
    have := ih (s.add a)
    rwa [add_eq, dialect_append, ← add_eq] at this

variable {s : Store} {t : Table}

/-- An addition extends the table, or leaves it as it is. -/
theorem Serves.add (h : s.Serves t) (ht : t.OfLog) (a : Addition) :
    ∃ t', (s.add a).Serves t' ∧ t'.OfLog ∧ t.Extends t' := by
  rw [add_eq]
  rcases h.append_outcome a.row a.cells_row with ⟨id, s', t', ha, hs, ht', -⟩ | ⟨e, he⟩
  · rw [hs]
    exact ⟨t', ht', ht.append a ha⟩
  · rw [he]
    exact ⟨t, h, ht, .refl t⟩

theorem Serves.addAll (h : s.Serves t) (ht : t.OfLog) (additions : List Addition) :
    ∃ t', (s.addAll additions).Serves t' ∧ t'.OfLog ∧ t.Extends t' := by
  induction additions generalizing s t with
  | nil => exact ⟨t, h, ht, .refl t⟩
  | cons a additions ih =>
    obtain ⟨t', h', ht', hext⟩ := h.add ht a
    obtain ⟨t'', h'', ht'', hext'⟩ := ih h' ht'
    exact ⟨t'', h'', ht'', hext.trans hext'⟩

theorem IsEmpty.addAll (h : s.IsEmpty) (additions : List Addition) :
    ∃ t, (s.addAll additions).Serves t ∧ t.OfLog := by
  obtain ⟨t, ht, hrows, hids, -⟩ := h.serves
  obtain ⟨t', ht', hlog, -⟩ := ht.addAll ⟨by simp [hrows], _, hids⟩ additions
  exact ⟨t', ht', hlog⟩

/-- What was current at some time is read as of that revision ever after, as long as rows are only
added: the same records in the same order, and the same counts. No record above the revision is
answered. -/
theorem list_snapshot (hs : s.IsEmpty) (before later : List Addition) :
    ∃ revision, (s.addAll before).currentRevision = .ok revision ∧ ∀ pattern cursor,
      (cursor ≠ "" ∨ (s.addAll before).versions "" = [] → ∀ limit withDeleted,
        Alike pattern (s.dialect.logError .tooComplex) []
          (recordsOf (((s.addAll before).addAll later).list pattern cursor limit revision
            withDeleted))
          (recordsOf ((s.addAll before).listCurrent pattern cursor limit withDeleted))) ∧
      Alike pattern (s.dialect.logError .tooComplex) 0
        (numberOf (((s.addAll before).addAll later).count pattern cursor revision))
        (numberOf ((s.addAll before).countCurrent pattern cursor)) ∧
      ∀ limit withDeleted rows,
        ((s.addAll before).addAll later).list pattern cursor limit revision withDeleted =
          .ok rows → ∀ row ∈ rows, row.record.id ≤ revision := by
  obtain ⟨t, ht, hlog⟩ := hs.addAll before
  obtain ⟨t', ht', hlog', hext⟩ := ht.addAll hlog later
  have hd : (s.addAll before).dialect = ((s.addAll before).addAll later).dialect :=
    (dialect_addAll _ later).symm
  have hs' : s.dialect = ((s.addAll before).addAll later).dialect :=
    (dialect_addAll s before).symm.trans hd
  refine ⟨t.currentRevision, ht.currentRevision, fun pattern cursor =>
    ⟨fun hcursor limit withDeleted => ?_, ?_, fun limit withDeleted rows hrows => ?_⟩⟩
  · have hq : t.AsOf { pattern, floor := some (.text cursor) }
        { pattern, floor := if cursor == "" then none else some (.text cursor),
          ceiling := some t.currentRevision } := by
      refine ⟨rfl, rfl, rfl, fun r hr => ?_⟩
      by_cases he : cursor = ""
      · have hnone := hcursor.resolve_left (· he)
        rw [ht.versions_eq] at hnone
        simp [Selection.isPastFloor, he, hlog.isAbove_empty hnone hr]
      · simp [Selection.isPastFloor, he]
    rw [hs']
    exact ht'.query_alike ht hd (hq.list_alike hext hlog hlog' limit withDeleted)
  · have hq : t.AsOf { pattern, floor := some (.text cursor) }
        { pattern, floor := some (.text cursor), ceiling := some t.currentRevision } :=
      ⟨rfl, rfl, rfl, fun _ _ => rfl⟩
    rw [hs']
    exact ht'.query_alike ht hd (hq.count_alike hext)
  · rw [Store.list, ht'.query] at hrows
    exact hlog'.list_le rfl (mapError_eq_ok.1 hrows)

/-- A key that is removed since, and that a second creation cannot bring back. -/
def removedLater : List Addition :=
  [.insert { name := "key", deleted := true, createRevision := 1, prevRevision := 1 },
    .insert (.create "key" [2])]

/-- The list as of the creation still shows the key. -/
theorem list_snapshot_removed : inMemory.IsEmpty ∧
    ∃ revision, (inMemory.addAll [.insert (.create "key" [1])]).currentRevision = .ok revision ∧
      recordsOf (((inMemory.addAll [.insert (.create "key" [1])]).addAll removedLater).list "k%" "k"
        0 revision false) =
      recordsOf ((inMemory.addAll [.insert (.create "key" [1])]).listCurrent "k%" "k" 0 false) := by
  obtain ⟨revision, hrevision, h⟩ :=
    list_snapshot isEmpty_inMemory [.insert (.create "key" [1])] removedLater
  obtain ⟨a, hlist, hcurrent⟩ :=
    ((h "k%" "k").1 (.inl (by decide)) 0 false).eq_ok (by decide +kernel)
  exact ⟨isEmpty_inMemory, revision, hrevision, hlist.trans hcurrent.symm⟩

/-- With a pattern that is too long an empty log answers no record, and the list as of revision 0 is
refused as soon as there is one. -/
theorem list_snapshot_refused : inMemory.IsEmpty ∧
    (inMemory.addAll []).currentRevision = .ok 0 ∧
    (inMemory.addAll []).listCurrent longPattern "d" 0 false = .ok [] ∧
    ∃ e, ((inMemory.addAll []).addAll [.insert (.create "key" [1])]).list longPattern "d" 0 0 false =
      .error e := by
  have hnone : (inMemory.addAll []).table?.map (fun t =>
      (t.compared { pattern := "", floor := some (.text "d") }).isEmpty) = some true := by
    rw [inMemory_eq]
    decide +kernel
  have hrow : ((inMemory.addAll []).addAll [.insert (.create "key" [1])]).table?.map (fun t =>
      (t.compared { pattern := "", floor := some (.text "d"), ceiling := some 0 }).isEmpty) =
        some false := by
    rw [inMemory_eq]
    decide +kernel
  obtain ⟨t, ht, hlog⟩ := isEmpty_inMemory.addAll []
  obtain ⟨t', ht', -, -⟩ := ht.addAll hlog [.insert (.create "key" [1])]
  rw [ht.table, Option.map_some, Option.some.injEq] at hnone
  rw [ht'.table, Option.map_some, Option.some.injEq] at hrow
  refine ⟨isEmpty_inMemory, by rw [inMemory_eq]; rfl, ?_, ?_⟩
  · rw [ht.listCurrent_long isTooComplex_longPattern, hnone]
    rfl
  · exact ⟨_, (ht'.list_long isTooComplex_longPattern (by decide) 0 0 false).trans
      (if_neg (by simp [hrow]))⟩

end Store

end RevisionLog
