import RevisionLog.Proofs.Actions
import RevisionLog.Proofs.Answers
import RevisionLog.Proofs.ByteOrder
import RevisionLog.Proofs.Polling
import RevisionLog.Proofs.ReadBack

/-!
# What a list answers

A list answers, of every name that matches its pattern and comes after its cursor, the newest record
up to its ceiling, and hides it if it is a tombstone that was not asked for (`Store.Shows`). The rows
ascend by the bytes of their names, so there is only one such answer; a limit takes the beginning of
it (`Store.AnswersExactly`). This is so after any actions (`Store.lists_latest`).

In the table a list takes rows that no other row of the name, up to the ceiling, is newer than
(`Table.mem_select_iff`), and each of them gives one row of the answer (`Table.list_eq`). Names do
not come twice, so the order by name is strict (`Table.select_ascending`). With a pattern that is too
long a list is refused when it has a row to compare (`Store.lists_refused`).
-/

namespace RevisionLog

/-- A tombstone is shown if it is asked for, and all else always. -/
theorem Cell.shows_flag (deleted withDeleted : Bool) :
    ((flag deleted).equals (.int 0) || (flag deleted).equals (.flag withDeleted)) =
      (!deleted || withDeleted) := by
  cases deleted <;> cases withDeleted <;> rfl

theorem StoredRow.Logged.deleted_eq {r : StoredRow} (h : r.Logged) {rec : Record}
    (hread : r.record? = some rec) : r.deleted = .flag rec.deleted := by
  cases h with
  | record g =>
    rw [record?_row] at hread
    cases hread
    rfl
  | watermark revision id =>
    rw [record?_watermark] at hread
    cases hread
    rfl

theorem newestPerName_distinct (rs : List StoredRow) :
    (newestPerName rs).Pairwise fun r s => r.name ≠ s.name := by
  induction rs with
  | nil => exact .nil
  | cons r rs ih =>
    rw [newestPerName]
    split
    · exact ih
    · rename_i hnone
      refine .cons (fun s hs hname => hnone ?_) ih
      exact List.any_eq_true.2 ⟨s, mem_of_mem_newestPerName hs, by simp [hname]⟩

/-- A list without two entries of one key, sorted by the key, ascends by it. -/
theorem pairwise_mergeSort_lt {α : Type} {f : α → String} {le : α → α → Bool} {xs : List α}
    (hle : ∀ a ∈ xs, ∀ b ∈ xs, le a b = decide (f a ≤ f b)) (hne : xs.Pairwise (f · ≠ f ·)) :
    (xs.mergeSort le).Pairwise (f · < f ·) := by
  have hkeys : (xs.mergeSort le).map f = (xs.map f).mergeSort fun a b => decide (a ≤ b) :=
    List.map_mergeSort hle
  have hnodup : ((xs.map f).mergeSort fun a b => decide (a ≤ b)).Nodup :=
    (List.mergeSort_perm _ _).nodup_iff.2 (List.pairwise_map.2 hne)
  have hsorted : ((xs.map f).mergeSort fun a b => decide (a ≤ b)).Pairwise
      fun a b => decide (a ≤ b) = true :=
    List.pairwise_mergeSort
      (fun a b c hab hbc => by
        simpa using String.le_trans (by simpa using hab) (by simpa using hbc))
      (fun a b => by simpa using String.le_total a b) _
  rw [← List.pairwise_map (f := f), hkeys]
  refine (hsorted.and hnodup).imp fun ⟨hab, hne⟩ => String.not_le.1 fun hba => hne ?_
  exact String.le_antisymm (by simpa using hab) hba

/-! ## Tables -/

namespace Table

variable {t : Table} {q : Selection} {withDeleted : Bool} {r : StoredRow}

theorem name_eq_shown (t : Table) (h : r.Logged) : r.name = .text (t.shown r).record.name := by
  obtain ⟨rec, hrec, -, hname⟩ := h.record?_eq
  simp [shown, hrec, hname]

/-- A list takes the rows that it looks at and that are the newest of their name among these, but
for tombstones that were not asked for. -/
theorem mem_select_iff : r ∈ t.select q withDeleted ↔
    (r ∈ t.rows ∧ q.admits r = true) ∧ t.isNewest q r = true ∧
      (r.deleted.equals (.int 0) || r.deleted.equals (.flag withDeleted)) = true := by
  rw [select, List.mem_mergeSort, List.mem_filter, newestPerName_eq (t.ascending.filter _),
    List.mem_filter, List.mem_filter, and_assoc]
  rfl

theorem logged_select (h : ∀ r ∈ t.rows, r.Logged) : ∀ r ∈ t.select q withDeleted, r.Logged :=
  fun r hr => h r (mem_of_mem_select hr).1

/-- What a list takes ascends by name, and no name comes twice. -/
theorem select_ascending (h : ∀ r ∈ t.rows, r.Logged) :
    (t.select q withDeleted).Pairwise fun r s =>
      (t.shown r).record.name < (t.shown s).record.name := by
  have hnamed : ∀ r ∈ newestPerName (t.rows.filter q.admits),
      r.name = .text (t.shown r).record.name := fun r hr =>
    name_eq_shown t (h r (List.mem_filter.1 (mem_of_mem_newestPerName hr)).1)
  refine pairwise_mergeSort_lt (f := fun r => (t.shown r).record.name) (fun r hr s hs => ?_) ?_
  · -- on rows with text for a name the engine sorts by that text
    rw [hnamed r (List.mem_filter.1 hr).1, hnamed s (List.mem_filter.1 hs).1,
      Cell.order_text_ne_gt]
  · refine List.Pairwise.imp_of_mem (fun hr hs hne he => hne ?_)
      ((newestPerName_distinct (t.rows.filter q.admits)).filter _)
    rw [hnamed _ (List.mem_filter.1 hr).1, hnamed _ (List.mem_filter.1 hs).1, he]

theorem mem_compared_of_reach (hr : r ∈ t.rows) (hpast : q.isPastFloor r = true)
    (hbelow : q.isBelowCeiling r = true) : r ∈ t.compared q := by
  rw [compared, List.mem_filter]
  split
  · exact ⟨hr, hpast⟩
  · exact ⟨hr, hbelow⟩

/-- A list that is not refused answers the rows that it takes, up to its limit. -/
theorem list_eq (h : ∀ r ∈ t.rows, r.Logged) (limit : Int)
    (hlet : Pattern.isTooComplex q.pattern = false ∨ t.compared q = []) :
    t.list q limit withDeleted = .ok (capped limit ((t.select q withDeleted).map t.shown)) := by
  have hguard : (Pattern.isTooComplex q.pattern && !(t.compared q).isEmpty) = false := by
    rcases hlet with hp | hnil
    · rw [hp, Bool.false_and]
    · rw [hnil, List.isEmpty_nil, Bool.not_true, Bool.and_false]
  rw [list, hguard, if_neg Bool.false_ne_true, answer_eq h (logged_list h), capped_map]

end Table

/-- What a list looks at: names that match the pattern and come after the cursor, if there is one,
up to the ceiling, if there is one. -/
def Selection.of (pattern : String) (cursor : Option String) (ceiling : Option Int) :
    Selection where
  pattern
  floor := cursor.map .text
  ceiling

@[simp] theorem Selection.of_pattern (pattern : String) (cursor : Option String)
    (ceiling : Option Int) : (of pattern cursor ceiling).pattern = pattern := rfl

/-! ## Stores -/

namespace Store

/-- A list shows the record: it is in the log under a name that matches the pattern and whose bytes
come after those of the cursor, if there is one, it is the newest of its name up to the ceiling, if
there is one, and it is no tombstone, or tombstones are asked for. -/
structure Shows (s : Store) (pattern : String) (cursor : Option String) (ceiling : Option Int)
    (withDeleted : Bool) (rec : Record) : Prop where
  got : s.get rec.id = .ok (some rec)
  like : (Cell.text rec.name).isLike pattern = true
  after : ∀ c ∈ cursor, Text.encode c < Text.encode rec.name
  upTo : ∀ revision ∈ ceiling, rec.id ≤ revision
  newest : ∀ other, s.get other.id = .ok (some other) → other.name = rec.name →
    (∀ revision ∈ ceiling, other.id ≤ revision) → other.id ≤ rec.id
  alive : rec.deleted = false ∨ withDeleted = true

/-- Under every limit the read answers the beginning of `rows`. These have exactly the records with
the property, by ascending bytes of their names, and carry the two revisions of the store. -/
structure AnswersExactly (s : Store) (read : Int → Except LogError (List Row)) (P : Record → Prop)
    (rows : List Row) : Prop where
  unlimited : ∀ limit ≤ 0, read limit = .ok rows
  limited : ∀ n : Nat, 0 < n → read n = .ok (rows.take n)
  records : ∀ rec, (∃ row ∈ rows, row.record = rec) ↔ P rec
  ascending : rows.Pairwise fun a b => Text.encode a.record.name < Text.encode b.record.name
  currentRevision : ∀ row ∈ rows, s.currentRevision = .ok row.currentRevision
  compactRevision : ∀ row ∈ rows, s.compactRevision = .ok row.compactRevision

/-- What a list may answer. -/
inductive ListsLatest (s : Store) (pattern : String) (cursor : Option String)
    (ceiling : Option Int) (withDeleted : Bool) (read : Int → Except LogError (List Row)) : Prop
  /-- It shows what it is to show. With a pattern that is too long there is nothing to look at. -/
  | answered (rows : List Row) :
    s.AnswersExactly read (s.Shows pattern cursor ceiling withDeleted) rows →
    (Pattern.isTooComplex pattern = true → ∀ rec, s.get rec.id = .ok (some rec) →
      ¬ ((∀ c ∈ cursor, Text.encode c < Text.encode rec.name) ∧
        ∀ revision ∈ ceiling, rec.id ≤ revision)) →
    ListsLatest s pattern cursor ceiling withDeleted read
  /-- The pattern is too long, and there is a record to compare it with. -/
  | refused : Pattern.isTooComplex pattern = true → (∃ rec, s.get rec.id = .ok (some rec)) →
    (∀ limit, read limit = .error (s.dialect.logError .tooComplex)) →
    ListsLatest s pattern cursor ceiling withDeleted read

namespace Serves

variable {s : Store} {t : Table} {pattern : String} {cursor : Option String} {ceiling : Option Int}
  {withDeleted : Bool} {rec : Record}

/-- What can be got has a row, and what a row is read as can be got. -/
theorem got_iff (h : s.Serves t) (hlog : ∀ r ∈ t.rows, r.Logged) :
    s.get rec.id = .ok (some rec) ↔ ∃ r ∈ t.rows, r.record? = some rec := by
  rw [h.get_eq]
  constructor
  · intro hget
    obtain ⟨r, hr, -, hread⟩ := Table.exists_row_of_get hlog hget
    exact ⟨r, hr, hread⟩
  · rintro ⟨r, hr, hread⟩
    exact (Table.get_of_row hlog hr hread).1

theorem isPastFloor_iff {r : StoredRow} (hname : r.name = .text rec.name) :
    (Selection.of pattern cursor ceiling).isPastFloor r = true ↔
      ∀ c ∈ cursor, Text.encode c < Text.encode rec.name := by
  cases cursor with
  | none => simp [Selection.of, Selection.isPastFloor]
  | some c => simp [Selection.of, Selection.isPastFloor, hname, Cell.isAbove_text]

theorem isBelowCeiling_iff {r : StoredRow} (hid : rec.id = r.id) :
    (Selection.of pattern cursor ceiling).isBelowCeiling r = true ↔
      ∀ revision ∈ ceiling, rec.id ≤ revision := by
  cases ceiling with
  | none => simp [Selection.of, Selection.isBelowCeiling]
  | some revision => simp [Selection.of, Selection.isBelowCeiling, hid]

theorem admits_iff {r : StoredRow} (hname : r.name = .text rec.name) (hid : rec.id = r.id) :
    (Selection.of pattern cursor ceiling).admits r = true ↔
      (Cell.text rec.name).isLike pattern = true ∧
        (∀ c ∈ cursor, Text.encode c < Text.encode rec.name) ∧
          ∀ revision ∈ ceiling, rec.id ≤ revision := by
  rw [Selection.admits, Bool.and_eq_true, Bool.and_eq_true, isPastFloor_iff hname,
    isBelowCeiling_iff hid, hname, Selection.of_pattern, and_assoc]

theorem shows_iff (h : s.Serves t) (hlog : ∀ r ∈ t.rows, r.Logged) :
    s.Shows pattern cursor ceiling withDeleted rec ↔
      ∃ r ∈ t.select (.of pattern cursor ceiling) withDeleted,
        r.record? = some rec := by
  constructor
  · rintro ⟨hgot, hlike, hafter, hupTo, hnewest, halive⟩
    obtain ⟨r, hr, hread⟩ := (h.got_iff hlog).1 hgot
    obtain ⟨-, hname, hid⟩ := Table.get_of_row hlog hr hread
    refine ⟨r, Table.mem_select_iff.2 ⟨⟨hr, (admits_iff hname hid).2 ⟨hlike, hafter, hupTo⟩⟩,
      Table.isNewest_iff.2 fun g hg hadmits hgn => ?_, ?_⟩, hread⟩
    · have hother := t.record?_eq_shown (hlog g hg)
      obtain ⟨hget, hgname, hgid⟩ := Table.get_of_row hlog hg hother
      rw [← hgid, ← hid]
      refine hnewest _ (h.get_eq.2 hget) ?_ ((admits_iff hgname hgid).1 hadmits).2.2
      exact Cell.text.inj (by rw [← hgname, hgn, hname])
    · rw [(hlog r hr).deleted_eq hread, Cell.shows_flag]
      simpa using halive
  · rintro ⟨r, hr, hread⟩
    obtain ⟨⟨hr, hadmits⟩, hnewest, hshown⟩ := Table.mem_select_iff.1 hr
    obtain ⟨hget, hname, hid⟩ := Table.get_of_row hlog hr hread
    obtain ⟨hlike, hafter, hupTo⟩ := (admits_iff hname hid).1 hadmits
    refine ⟨h.get_eq.2 hget, hlike, hafter, hupTo, fun other hgot hsame hother => ?_, ?_⟩
    · obtain ⟨g, hg, hgread⟩ := (h.got_iff hlog).1 hgot
      obtain ⟨-, hgname, hgid⟩ := Table.get_of_row hlog hg hgread
      rw [hgid, hid]
      refine Table.isNewest_iff.1 hnewest g hg ((admits_iff hgname hgid).2 ?_) ?_
      · rw [hsame]
        exact ⟨hlike, hafter, hother⟩
      · rw [hgname, hsame, hname]
    · rw [(hlog r hr).deleted_eq hread, Cell.shows_flag] at hshown
      simpa using hshown

theorem answersExactly (h : s.Serves t) (hlog : ∀ r ∈ t.rows, r.Logged)
    (hlet : Pattern.isTooComplex pattern = false ∨
      t.compared (.of pattern cursor ceiling) = []) :
    s.AnswersExactly
      (fun limit => s.query
        (·.list (.of pattern cursor ceiling) limit withDeleted))
      (s.Shows pattern cursor ceiling withDeleted)
      ((t.select (.of pattern cursor ceiling) withDeleted).map t.shown) := by
  have hread : ∀ limit, s.query
      (·.list (.of pattern cursor ceiling) limit withDeleted) =
        .ok (capped limit
          ((t.select (.of pattern cursor ceiling) withDeleted).map t.shown)) :=
    fun limit => by rw [h.query, Table.list_eq hlog limit hlet, mapError_ok]
  refine ⟨fun limit hlimit => ?_, fun n hn => ?_, fun rec => ?_, ?_, fun row hrow => ?_,
    fun row hrow => ?_⟩
  · rw [hread, capped, if_pos hlimit]
  · rw [hread, capped, if_neg (by omega), Int.toNat_natCast]
  · rw [h.shows_iff hlog]
    simp only [List.mem_map, exists_exists_and_eq_and]
    refine exists_congr fun r => and_congr_right fun hr => ?_
    rw [t.record?_eq_shown (Table.logged_select hlog r hr), Option.some.injEq]
  · rw [List.pairwise_map]
    exact (Table.select_ascending hlog).imp Text.encode_lt
  · obtain ⟨r, -, rfl⟩ := List.mem_map.1 hrow
    exact h.currentRevision
  · obtain ⟨r, -, rfl⟩ := List.mem_map.1 hrow
    exact h.compactRevision_eq hlog

theorem query_refused (h : s.Serves t) (hp : Pattern.isTooComplex pattern = true)
    (hrow : t.compared (.of pattern cursor ceiling) ≠ []) (limit : Int) :
    s.query (·.list (.of pattern cursor ceiling) limit withDeleted) =
      .error (s.dialect.logError .tooComplex) := by
  have hguard : (Pattern.isTooComplex (Selection.of pattern cursor ceiling).pattern &&
      !(t.compared (.of pattern cursor ceiling)).isEmpty) = true := by
    simpa [hp] using hrow
  rw [h.query, Table.list, if_pos hguard, mapError_error]

theorem listsLatest (h : s.Serves t) (hlog : ∀ r ∈ t.rows, r.Logged) :
    s.ListsLatest pattern cursor ceiling withDeleted fun limit =>
      s.query (·.list (.of pattern cursor ceiling) limit withDeleted) := by
  by_cases hlet : Pattern.isTooComplex pattern = false ∨
      t.compared (.of pattern cursor ceiling) = []
  · refine .answered _ (h.answersExactly hlog hlet) fun hp rec hgot hreach => ?_
    -- a record within reach would have been compared
    have hnil := hlet.resolve_left (by simp [hp])
    obtain ⟨r, hr, hread⟩ := (h.got_iff hlog).1 hgot
    obtain ⟨-, hname, hid⟩ := Table.get_of_row hlog hr hread
    have hmem : r ∈ t.compared (.of pattern cursor ceiling) :=
      Table.mem_compared_of_reach hr ((isPastFloor_iff hname).2 hreach.1)
        ((isBelowCeiling_iff hid).2 hreach.2)
    rw [hnil] at hmem
    cases hmem
  · rw [not_or, Bool.not_eq_false] at hlet
    obtain ⟨hp, hrow⟩ := hlet
    refine .refused hp ?_ (h.query_refused hp hrow)
    obtain ⟨r, hr⟩ := List.exists_mem_of_ne_nil _ hrow
    have hr := (List.mem_filter.1 hr).1
    exact ⟨_, (h.got_iff hlog).2 ⟨r, hr, t.record?_eq_shown (hlog r hr)⟩⟩

end Serves

/-! ## Any actions -/

variable {s : Store}

/-- With the empty cursor a list as of a revision does not bound names. -/
def bound (cursor : String) : Option String := if cursor = "" then none else some cursor

theorem list_eq_query (s : Store) (pattern cursor : String) (limit revision : Int)
    (withDeleted : Bool) :
    s.list pattern cursor limit revision withDeleted =
      s.query (·.list (.of pattern (bound cursor) (some revision)) limit withDeleted) := by
  by_cases hc : cursor = "" <;> simp [list, bound, Selection.of, hc]

/-- After any actions a list answers exactly the newest records of the names that it looks at, by
the bytes of their names, unless its pattern is refused as too long. Getting a record never fails. -/
theorem lists_latest (hs : s.IsEmpty) (actions : List Action) :
    (∀ id, ∃ found, (s.actAll actions).get id = .ok found) ∧
      ∀ pattern cursor withDeleted,
        ((s.actAll actions).ListsLatest pattern (some cursor) none withDeleted fun limit =>
          (s.actAll actions).listCurrent pattern cursor limit withDeleted) ∧
        ∀ revision, (s.actAll actions).ListsLatest pattern (bound cursor) (some revision)
          withDeleted fun limit =>
            (s.actAll actions).list pattern cursor limit revision withDeleted := by
  obtain ⟨t, last, ht, hreg, -⟩ := hs.actAll actions
  refine ⟨fun id => ⟨_, ht.get_eq.2 (Table.get_ok hreg.logged id)⟩,
    fun pattern cursor withDeleted => ⟨ht.listsLatest hreg.logged, fun revision => ?_⟩⟩
  simp only [list_eq_query]
  exact ht.listsLatest hreg.logged

/-- Two keys, the second of them buried at revision 3 and begun anew at revision 4. -/
def reborn : List Action :=
  [.insert (.create "b" [1]), .insert (.create "a" [2]),
    .insert { name := "b", deleted := true, createRevision := 1, prevRevision := 1 },
    .insert { Draft.create "b" [3] with prevRevision := 3 }]

/-- As of revision 3 the second key is hidden, and with it its first version. -/
theorem lists_latest_reborn : inMemory.IsEmpty ∧
    ((inMemory.actAll reborn).ListsLatest "%" none (some 3) false fun limit =>
      (inMemory.actAll reborn).list "%" "" limit 3 false) ∧
    ((inMemory.actAll reborn).list "%" "" 0 3 false).map (·.map (·.record.id)) = .ok [2] ∧
    ((inMemory.actAll reborn).ListsLatest "%" (some "a") none false fun limit =>
      (inMemory.actAll reborn).listCurrent "%" "a" limit false) ∧
    ((inMemory.actAll reborn).listCurrent "%" "a" 0 false).map (·.map (·.record.id)) =
      .ok [4] := by
  obtain ⟨-, hlists⟩ := lists_latest isEmpty_inMemory reborn
  refine ⟨isEmpty_inMemory, (hlists "%" "" false).2 3, ?_, (hlists "%" "a" false).1, ?_⟩ <;>
  · rw [inMemory_eq]
    decide +kernel

/-- One key is created. -/
def oneKey : List Action := [.insert (.create "a" [1])]

/-- Its record. -/
def oneRecord : Record := (Draft.create "a" [1]).readBack 1

/-- A list is refused though there is a record that it is to show: its pattern has one byte too
many. -/
theorem lists_refused : inMemory.IsEmpty ∧
    (inMemory.actAll oneKey).Shows Watch.wildPattern (some "") none false oneRecord ∧
    ∃ e, (inMemory.actAll oneKey).listCurrent Watch.wildPattern "" 0 false = .error e := by
  obtain ⟨t, last, ht, hreg, -⟩ := isEmpty_inMemory.actAll oneKey
  have hread : (inMemory.actAll oneKey).get oneRecord.id = .ok (some oneRecord) ∧
      (inMemory.actAll oneKey).currentRevision = .ok 1 := by
    rw [inMemory_eq]
    decide +kernel
  obtain ⟨hgot, hcurrent⟩ := hread
  rw [ht.currentRevision, Except.ok.injEq] at hcurrent
  have hafter : ∀ c ∈ some "", Text.encode c < Text.encode "a" := by
    rintro c ⟨⟩
    exact Text.encode_lt_iff.2 (by decide)
  obtain ⟨r, hr, hrec⟩ := (ht.got_iff hreg.logged).1 hgot
  obtain ⟨-, hname, hid⟩ := Table.get_of_row hreg.logged hr hrec
  have hcompared : r ∈ t.compared (.of Watch.wildPattern (some "") none) :=
    Table.mem_compared_of_reach hr ((Serves.isPastFloor_iff hname).2 hafter)
      ((Serves.isBelowCeiling_iff hid).2 (by simp))
  -- there is no other record, so the one that matches is the newest of its name
  refine ⟨isEmpty_inMemory, ⟨hgot, Watch.like_wildPattern "a" [] (by decide), hafter, by simp,
    fun other hother _ _ => ?_, .inl rfl⟩, _,
    ht.query_refused Watch.isTooComplex_wildPattern (List.ne_nil_of_mem hcompared) 0⟩
  obtain ⟨g, hg, hgrec⟩ := (ht.got_iff hreg.logged).1 hother
  rw [(Table.get_of_row hreg.logged hg hgrec).2.2]
  exact (Table.le_currentRevision hg).trans_eq hcurrent

end Store

end RevisionLog
