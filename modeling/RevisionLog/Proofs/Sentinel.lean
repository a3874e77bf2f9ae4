import RevisionLog.Proofs.CurrentRevision
import RevisionLog.Proofs.Snapshot
import RevisionLog.Proofs.Sweeps
import Mathlib.Data.List.Basic

/-!
# What reads show of the sentinel

The rows that keep the marks stand in the table of the keys, and no read leaves them out by
themselves: only a pattern that does not match the name of the sentinel does, a cursor that is past
it, or a ceiling below every mark (`Store.exposes`). A read shows the sentinel exactly if it is
exposed to it (`Store.ShowsSentinel`).

A count is that of the keys, and one more if it is exposed to the sentinel
(`Table.Holds.length_select`): the newest row of each name is taken name by name, so the two parts of
the table do not get in each other's way (`newestPerName_filter`). A mark is no part of the keys, so
recording one changes a count at most by the sentinel (`Store.CountsSentinel`,
`Journal.sentinel_shown`).
-/

namespace RevisionLog

/-! ## The newest row of each name -/

/-- Leaving out whole names leaves the newest rows of the others. -/
theorem newestPerName_filter {p : StoredRow → Bool} (hp : ∀ r s, r.name = s.name → p r = p s)
    (rs : List StoredRow) : newestPerName (rs.filter p) = (newestPerName rs).filter p := by
  induction rs with
  | nil => rfl
  | cons r rs ih =>
    cases hr : p r with
    | false =>
      rw [List.filter_cons_of_neg (by simp [hr]), newestPerName, ih]
      split
      · rfl
      · rw [List.filter_cons_of_neg (by simp [hr])]
    | true =>
      have hany : (rs.filter p).any (·.name == r.name) = rs.any (·.name == r.name) := by
        rw [List.any_filter]
        congr 1
        funext s
        by_cases hn : s.name = r.name
        · simp [hn, hp s r hn, hr]
        · simp [hn]
      rw [List.filter_cons_of_pos hr, newestPerName, newestPerName, hany, ih]
      split
      · rfl
      · rw [List.filter_cons_of_pos hr]

theorem exists_newestPerName {rs : List StoredRow} {r : StoredRow} (hr : r ∈ rs) :
    ∃ s ∈ newestPerName rs, s.name = r.name := by
  induction rs generalizing r with
  | nil => cases hr
  | cons x rs ih =>
    rw [newestPerName]
    split
    · rename_i hany
      rcases List.mem_cons.1 hr with rfl | hr
      · obtain ⟨y, hy, hn⟩ := List.any_eq_true.1 hany
        obtain ⟨s, hs, hns⟩ := ih hy
        exact ⟨s, hs, hns.trans (beq_iff_eq.1 hn)⟩
      · exact ih hr
    · rcases List.mem_cons.1 hr with rfl | hr
      · exact ⟨r, .head _, rfl⟩
      · obtain ⟨s, hs, hn⟩ := ih hr
        exact ⟨s, .tail _ hs, hn⟩

/-- Rows of one name have one newest row. -/
theorem length_newestPerName {rs : List StoredRow} {name : Cell} (h : ∀ r ∈ rs, r.name = name) :
    (newestPerName rs).length = (!rs.isEmpty).toNat := by
  induction rs with
  | nil => rfl
  | cons r rs ih =>
    have ih := ih fun s hs => h s (.tail _ hs)
    rw [newestPerName]
    cases rs with
    | nil => rfl
    | cons s rs =>
      have hn : s.name = r.name := (h s (by simp)).trans (h r (.head _)).symm
      rw [if_pos (by simp [hn]), ih]
      rfl

/-! ## The sentinel in a table -/

namespace Table

variable {t t' : Table} {past : List Record} {q : Selection}

/-- A list looks at a row of the sentinel. -/
def exposes (t : Table) (q : Selection) : Bool := t.rows.any fun r => q.admits r && r.isSentinel

/-- The number of keys that a list answers. -/
def keyCount (t : Table) (q : Selection) : Nat :=
  ((newestPerName (t.keyRows.filter q.admits)).filter (·.deleted.equals (.int 0))).length

theorem exists_named_iff (hlog : ∀ r ∈ t.rows, r.Logged) {rows : List StoredRow}
    (hrows : ∀ r ∈ rows, r.Logged) {out : List Row} (hout : t.answer rows = .ok out)
    (name : String) :
    (∃ row ∈ out, row.record.name = name) ↔ ∃ r ∈ rows, r.name = .text name := by
  constructor
  · rintro ⟨row, hrow, hname⟩
    obtain ⟨r, hr, hread⟩ := (exists_answer_iff hlog hrows hout).1 ⟨row, hrow, rfl⟩
    obtain ⟨rec, hrec, -, hn⟩ := (hrows r hr).record?_eq
    rw [hread, Option.some.injEq] at hrec
    exact ⟨r, hr, by rw [hn, ← hrec, hname]⟩
  · rintro ⟨r, hr, hname⟩
    obtain ⟨rec, hread, -, hn⟩ := (hrows r hr).record?_eq
    obtain ⟨row, hrow, rfl⟩ := (exists_answer_iff hlog hrows hout).2 ⟨r, hr, hread⟩
    rw [hname] at hn
    cases hn
    exact ⟨row, hrow, rfl⟩

namespace Holds

theorem alive_of_isSentinel (h : t.Holds past) {r : StoredRow} (hr : r ∈ t.rows)
    (hs : r.isSentinel = true) : r.deleted = .int 0 := by
  rcases h.rows r hr with ⟨g, hg, rfl⟩ | ⟨w, hw, -⟩
  · rw [h.isSentinel_row hg] at hs
    cases hs
  · rw [← hw]
    rfl

/-- Of the rows of the sentinel a list answers one, if it looks at any. -/
theorem length_newestSentinel (h : t.Holds past) (q : Selection) :
    ((newestPerName ((t.rows.filter (·.isSentinel)).filter q.admits)).filter
      (·.deleted.equals (.int 0))).length = (t.exposes q).toNat := by
  have hmem : ∀ r ∈ (t.rows.filter (·.isSentinel)).filter q.admits,
      r ∈ t.rows ∧ r.isSentinel = true := fun r hr => List.mem_filter.1 (List.mem_filter.1 hr).1
  have halive : ∀ r ∈ newestPerName ((t.rows.filter (·.isSentinel)).filter q.admits),
      r.deleted.equals (.int 0) = true := by
    intro r hr
    obtain ⟨hr, hs⟩ := hmem r (mem_of_mem_newestPerName hr)
    rw [h.alive_of_isSentinel hr hs]
    rfl
  have hname : ∀ r ∈ (t.rows.filter (·.isSentinel)).filter q.admits,
      r.name = .text sentinelName := by
    intro r hr
    obtain ⟨hr, hs⟩ := hmem r hr
    exact (h.logged r hr).isSentinel_iff.1 hs
  rw [List.filter_eq_self.2 halive, length_newestPerName hname, exposes]
  congr 1
  rw [Bool.eq_iff_iff]
  simp

/-- A list answers its keys, and the sentinel if it is exposed to it. -/
theorem length_select (h : t.Holds past) (q : Selection) :
    (t.select q false).length = t.keyCount q + (t.exposes q).toNat := by
  have halive : ∀ r : StoredRow, (r.deleted.equals (.int 0) || r.deleted.equals (.flag false)) =
      r.deleted.equals (.int 0) := fun r => Bool.or_self _
  -- a part of the table that consists of whole names has its own newest rows
  have hpart : ∀ p : StoredRow → Bool, (∀ r s, r.name = s.name → p r = p s) →
      ((newestPerName (t.rows.filter q.admits)).filter (·.deleted.equals (.int 0))).filter p =
        (newestPerName ((t.rows.filter p).filter q.admits)).filter (·.deleted.equals (.int 0)) := by
    intro p hp
    rw [List.filter_comm, ← newestPerName_filter hp, List.filter_comm]
  have hkeys := hpart (!·.isSentinel) fun r s hn => by rw [r.isSentinel_congr s hn]
  have hsentinel := hpart (·.isSentinel) StoredRow.isSentinel_congr
  simp only [select, halive, List.length_mergeSort]
  rw [List.length_eq_length_filter_add (!·.isSentinel), hkeys]
  simp only [Bool.not_not]
  rw [hsentinel, h.length_newestSentinel, keyCount, keyRows]

end Holds

theorem count_eq (hp : Pattern.isTooComplex q.pattern = false) :
    t.count q = .ok (t.currentRevision, (t.select q false).length) := by
  simp [count, hp]

/-- With a long pattern a count is refused if it has a row to compare, and is 0 if not. -/
theorem count_long (hp : Pattern.isTooComplex q.pattern = true) :
    t.count q =
      if (t.compared q).isEmpty then .ok (t.currentRevision, 0) else .error .tooComplex := by
  rw [count, hp]
  cases he : (t.compared q).isEmpty with
  | false => rfl
  | true =>
    rw [List.isEmpty_iff] at he
    simp [select_of_compared he]

/-- A long pattern that is let through is let through with fewer rows to compare. -/
theorem count_alike_long (hp : Pattern.isTooComplex q.pattern = true)
    (hcompared : t'.compared q = [] → t.compared q = []) :
    Alike q.pattern Fault.tooComplex 0 (numberOf (t'.count q)) (numberOf (t.count q)) := by
  rw [count_long hp, count_long hp]
  cases hn' : (t'.compared q).isEmpty with
  | true =>
    have hn : (t.compared q).isEmpty = true := by simpa using hcompared (List.isEmpty_iff.1 hn')
    rw [hn]
    exact .same 0
  | false =>
    cases (t.compared q).isEmpty with
    | true => exact .relieved hp
    | false => exact .refused hp

/-- A list shows the sentinel only if it is exposed to it, and without a limit always then. -/
theorem Holds.list_sentinel (h : t.Holds past) {limit : Int} {withDeleted : Bool} {out : List Row}
    (hout : t.list q limit withDeleted = .ok out) :
    ((∃ row ∈ out, row.record.name = sentinelName) → t.exposes q = true) ∧
      (limit ≤ 0 → t.exposes q = true → ∃ row ∈ out, row.record.name = sentinelName) := by
  rw [exists_named_iff h.logged (logged_list h.logged) (answer_of_list hout)]
  simp only [exposes, List.any_eq_true, Bool.and_eq_true]
  constructor
  · rintro ⟨r, hr, hname⟩
    obtain ⟨hr, hadmits⟩ := mem_of_mem_select (mem_of_mem_capped hr)
    exact ⟨r, hr, hadmits, (h.logged r hr).isSentinel_iff.2 hname⟩
  · rintro hlimit ⟨r, hr, hadmits, hs⟩
    obtain ⟨l, hl, hname⟩ := exists_newestPerName (List.mem_filter.2 ⟨hr, hadmits⟩)
    have hlr := (List.mem_filter.1 (mem_of_mem_newestPerName hl)).1
    have hls : l.isSentinel = true := by rw [l.isSentinel_congr r hname, hs]
    refine ⟨l, ?_, (h.logged l hlr).isSentinel_iff.1 hls⟩
    rw [capped, if_pos hlimit, select, List.mem_mergeSort, List.mem_filter]
    exact ⟨hl, by rw [h.alive_of_isSentinel hlr hls]; rfl⟩

theorem Holds.after_sentinel (h : t.Holds past) {pattern : String} {revision limit : Int}
    {out : List Row} (hout : t.after pattern revision limit = .ok out) :
    ((∃ row ∈ out, row.record.name = sentinelName) →
        (Cell.text sentinelName).isLike pattern = true ∧
          ∃ r ∈ t.rows, r.name = .text sentinelName ∧ revision < r.id) ∧
      (limit ≤ 0 → (Cell.text sentinelName).isLike pattern = true →
        (∃ r ∈ t.rows, r.name = .text sentinelName ∧ revision < r.id) →
        ∃ row ∈ out, row.record.name = sentinelName) := by
  rw [exists_named_iff h.logged (logged_after h.logged) (answer_of_after hout)]
  constructor
  · rintro ⟨r, hr, hname⟩
    obtain ⟨hr, hlike⟩ := List.mem_filter.1 (mem_of_mem_capped hr)
    obtain ⟨hr, hlt⟩ := List.mem_filter.1 hr
    exact ⟨hname ▸ hlike, r, hr, hname, of_decide_eq_true hlt⟩
  · rintro hlimit hlike ⟨r, hr, hname, hlt⟩
    refine ⟨r, ?_, hname⟩
    rw [capped, if_pos hlimit]
    exact List.mem_filter.2 ⟨List.mem_filter.2 ⟨hr, decide_eq_true hlt⟩, hname ▸ hlike⟩

end Table

/-! ## The sentinel in a store -/

namespace Store

/-- A list with the pattern looks at a mark: the pattern matches the name of the sentinel, which
comes after the cursor, and the id of the mark is not above the ceiling. -/
def exposes (s : Store) (pattern cursor : String) (ceiling : Option Int) : Bool :=
  (Cell.text sentinelName).isLike pattern && (Cell.text sentinelName).isAbove (.text cursor) &&
    (s.versions sentinelName).any fun mark => ceiling.all (mark.id ≤ ·)

/-- Reads show the sentinel only if they look at a mark, and always then if there is no limit. -/
structure ShowsSentinel (s : Store) (pattern : String) : Prop where
  listCurrent : ∀ cursor limit withDeleted rows,
    s.listCurrent pattern cursor limit withDeleted = .ok rows →
    ((∃ row ∈ rows, row.record.name = sentinelName) → s.exposes pattern cursor none = true) ∧
      (limit ≤ 0 → s.exposes pattern cursor none = true →
        ∃ row ∈ rows, row.record.name = sentinelName)
  list : ∀ cursor limit revision withDeleted rows,
    s.list pattern cursor limit revision withDeleted = .ok rows →
    ((∃ row ∈ rows, row.record.name = sentinelName) →
        s.exposes pattern cursor (some revision) = true) ∧
      (limit ≤ 0 → s.exposes pattern cursor (some revision) = true →
        ∃ row ∈ rows, row.record.name = sentinelName)
  after : ∀ revision limit rows, s.after pattern revision limit = .ok rows →
    ((∃ row ∈ rows, row.record.name = sentinelName) →
        (Cell.text sentinelName).isLike pattern = true ∧
          ∃ mark ∈ s.versions sentinelName, revision < mark.id) ∧
      (limit ≤ 0 → (Cell.text sentinelName).isLike pattern = true →
        (∃ mark ∈ s.versions sentinelName, revision < mark.id) →
        ∃ row ∈ rows, row.record.name = sentinelName)

/-- Counts in two stores are those of the same keys, and one more where they look at a mark. With a
long pattern the second store may refuse a count that is 0 in the first. -/
structure CountsSentinel (s : Store) (pattern : String) (s' : Store) : Prop where
  countCurrent : Pattern.isTooComplex pattern = false → ∀ cursor, ∃ keys,
    numberOf (s.countCurrent pattern cursor) =
      .ok (keys + (s.exposes pattern cursor none).toNat) ∧
    numberOf (s'.countCurrent pattern cursor) =
      .ok (keys + (s'.exposes pattern cursor none).toNat)
  count : Pattern.isTooComplex pattern = false → ∀ cursor revision, ∃ keys,
    numberOf (s.count pattern cursor revision) =
      .ok (keys + (s.exposes pattern cursor (some revision)).toNat) ∧
    numberOf (s'.count pattern cursor revision) =
      .ok (keys + (s'.exposes pattern cursor (some revision)).toNat)
  countCurrent_long : Pattern.isTooComplex pattern = true → ∀ cursor,
    Alike pattern (s.dialect.logError .tooComplex) 0
      (numberOf (s'.countCurrent pattern cursor)) (numberOf (s.countCurrent pattern cursor))
  count_long : Pattern.isTooComplex pattern = true → ∀ cursor revision,
    Alike pattern (s.dialect.logError .tooComplex) 0
      (numberOf (s'.count pattern cursor revision)) (numberOf (s.count pattern cursor revision))

namespace Serves

variable {s s' : Store} {t t' : Table} {past : List Record} {pattern cursor : String}

theorem exists_version_iff (hs : s.Serves t) (h : ∀ r ∈ t.rows, r.Logged) (name : String)
    (p : Int → Prop) :
    (∃ rec ∈ s.versions name, p rec.id) ↔ ∃ r ∈ t.rows, r.name = .text name ∧ p r.id := by
  rw [hs.versions_eq]
  simp only [Table.versions, List.mem_filterMap, List.mem_filter, beq_iff_eq]
  constructor
  · rintro ⟨rec, ⟨r, ⟨hr, hname⟩, hread⟩, hp⟩
    obtain ⟨rec', hrec', hid, -⟩ := (h r hr).record?_eq
    rw [hread, Option.some.injEq] at hrec'
    exact ⟨r, hr, hname, by rwa [← hid, ← hrec']⟩
  · rintro ⟨r, hr, hname, hp⟩
    obtain ⟨rec, hrec, hid, -⟩ := (h r hr).record?_eq
    exact ⟨rec, ⟨r, ⟨hr, hname⟩, hrec⟩, by rwa [hid]⟩

/-- A cursor may also stand for no bound, if it is empty. -/
theorem exposes_eq (hs : s.Serves t) (h : ∀ r ∈ t.rows, r.Logged) {floor : Option Cell}
    (hfloor : floor = some (.text cursor) ∨ floor = none ∧ cursor = "") (ceiling : Option Int) :
    s.exposes pattern cursor ceiling = t.exposes { pattern, floor, ceiling } := by
  have hpast : ∀ r : StoredRow, r.name = .text sentinelName →
      Selection.isPastFloor { pattern, floor, ceiling } r =
        (Cell.text sentinelName).isAbove (.text cursor) := by
    intro r hname
    rcases hfloor with rfl | ⟨rfl, rfl⟩
    · simp [Selection.isPastFloor, hname]
    · exact (Cell.isAbove_text_empty (by decide)).symm
  have hbelow : ∀ r : StoredRow,
      Selection.isBelowCeiling { pattern, floor, ceiling } r = ceiling.all (r.id ≤ ·) := by
    intro r
    cases ceiling <;> rfl
  rw [Bool.eq_iff_iff]
  simp only [exposes, Table.exposes, Bool.and_eq_true, List.any_eq_true]
  rw [hs.exists_version_iff h sentinelName fun id => ceiling.all (id ≤ ·) = true]
  constructor
  · rintro ⟨⟨hlike, hcursor⟩, r, hr, hname, hc⟩
    refine ⟨r, hr, ?_, (h r hr).isSentinel_iff.2 hname⟩
    rw [Selection.admits, hname, hlike, hpast r hname, hcursor, hbelow, hc]
    rfl
  · rintro ⟨r, hr, hadmits, hsent⟩
    have hname := (h r hr).isSentinel_iff.1 hsent
    rw [Selection.admits, hname, hpast r hname, hbelow, Bool.and_eq_true, Bool.and_eq_true]
      at hadmits
    exact ⟨hadmits.1, r, hr, hname, hadmits.2⟩

theorem showsSentinel (hs : s.Serves t) (h : t.Holds past) (pattern : String) :
    s.ShowsSentinel pattern where
  listCurrent cursor limit withDeleted rows hrows := by
    rw [listCurrent, hs.query] at hrows
    rw [hs.exposes_eq h.logged (.inl rfl) none]
    exact h.list_sentinel (mapError_eq_ok.1 hrows)
  list cursor limit revision withDeleted rows hrows := by
    have hfloor : (if cursor == "" then none else some (Cell.text cursor)) = some (.text cursor) ∨
        (if cursor == "" then none else some (Cell.text cursor)) = none ∧ cursor = "" := by
      by_cases he : cursor = "" <;> simp [he]
    rw [list, hs.query] at hrows
    rw [hs.exposes_eq h.logged hfloor (some revision)]
    exact h.list_sentinel (mapError_eq_ok.1 hrows)
  after revision limit rows hrows := by
    rw [after, hs.query] at hrows
    rw [hs.exists_version_iff h.logged sentinelName (revision < ·)]
    exact h.after_sentinel (mapError_eq_ok.1 hrows)

theorem numberOf_count (hs : s.Serves t) (h : t.Holds past) {q : Selection}
    (hp : Pattern.isTooComplex q.pattern = false) :
    numberOf (s.query (·.count q)) = .ok (t.keyCount q + (t.exposes q).toNat) := by
  rw [hs.query, Table.count_eq hp, h.length_select]
  rfl

/-- Stores on tables of the same keys count the same keys. -/
theorem countsSentinel (hs : s.Serves t) (h : t.Holds past) (hs' : s'.Serves t')
    (h' : t'.Holds past) (hd : s'.dialect = s.dialect) (hkeys : t'.keyRows = t.keyRows)
    (hcompared : ∀ q, t'.compared q = [] → t.compared q = []) (pattern : String) :
    s.CountsSentinel pattern s' where
  countCurrent hp cursor := by
    let q : Selection := { pattern, floor := some (.text cursor) }
    refine ⟨t.keyCount q, ?_, ?_⟩
    · rw [hs.exposes_eq h.logged (.inl rfl) none]
      exact hs.numberOf_count h hp
    · rw [hs'.exposes_eq h'.logged (.inl rfl) none, Table.keyCount, ← hkeys]
      exact hs'.numberOf_count h' hp
  count hp cursor revision := by
    let q : Selection := { pattern, floor := some (.text cursor), ceiling := some revision }
    refine ⟨t.keyCount q, ?_, ?_⟩
    · rw [hs.exposes_eq h.logged (.inl rfl) (some revision)]
      exact hs.numberOf_count h hp
    · rw [hs'.exposes_eq h'.logged (.inl rfl) (some revision), Table.keyCount, ← hkeys]
      exact hs'.numberOf_count h' hp
  countCurrent_long hp cursor := by
    rw [← hd]
    exact hs'.query_alike hs hd.symm (Table.count_alike_long
      (q := { pattern, floor := some (.text cursor) }) hp (hcompared _))
  count_long hp cursor revision := by
    rw [← hd]
    exact hs'.query_alike hs hd.symm (Table.count_alike_long
      (q := { pattern, floor := some (.text cursor), ceiling := some revision }) hp (hcompared _))

theorem setCompactRevision_countsSentinel (hs : s.Serves t) (h : t.Holds past) (revision : Int)
    (pattern : String) : s.CountsSentinel pattern (s.setCompactRevision revision).2 := by
  rcases hs.setCompactRevision_cases h.regular revision with
    ⟨s', id, t', hset, hs', ha, -⟩ | ⟨e, hset, -⟩
  · obtain ⟨last, hids, -⟩ := h.counter
    obtain ⟨-, hrows, -, hix⟩ := Table.append_inv hids (fun _ => rfl) ha
    have hd : s'.dialect = s.dialect := by
      have := s.dialect_append (.watermark revision)
      rwa [← setCompactRevision_snd, hset] at this
    rw [hset]
    refine hs.countsSentinel h hs' (h.aside ha) hd (h.keyRows_append ha) (fun q hnil => ?_) pattern
    rw [Table.compared, Table.hasNameOrder, hix, hrows, List.filter_append] at hnil
    exact (List.append_eq_nil_iff.1 hnil).1
  · rw [hset]
    exact hs.countsSentinel h hs h rfl rfl (fun _ => id) pattern

end Serves

end Store

/-! ## Journals -/

namespace Journal

/-- After any deeds a read shows the sentinel exactly if it looks at a mark, which a read with a
pattern that does not match its name never does. Recording a watermark leaves the number of keys in
every count. -/
theorem sentinel_shown {s : Store} (hs : s.IsEmpty) (deeds : List Deed) (pattern : String) :
    (run s deeds).store.ShowsSentinel pattern ∧
      ∀ revision, (run s deeds).store.CountsSentinel pattern
        ((run s deeds).store.setCompactRevision revision).2 := by
  obtain ⟨t, last, ht, h, -⟩ := sound_run hs deeds
  exact ⟨ht.showsSentinel h pattern, fun revision =>
    ht.setCompactRevision_countsSentinel h revision pattern⟩

/-- A key and a mark. -/
def keyAndMark : List Deed := [.create .sample [1] none, .setCompactRevision 1]

/-- A pattern of keys does not show the sentinel, and another mark does not change the count. -/
theorem sentinel_shown_hidden : Store.inMemory.IsEmpty ∧
    (∃ rows, (run Store.inMemory keyAndMark).store.listCurrent "k%" "" 0 true = .ok rows ∧
      ∀ row ∈ rows, row.record.name ≠ sentinelName) ∧
    numberOf ((run Store.inMemory keyAndMark).store.countCurrent "k%" "") =
      numberOf (((run Store.inMemory keyAndMark).store.setCompactRevision 2).2.countCurrent
        "k%" "") := by
  have hlike : (Cell.text sentinelName).isLike "k%" = false := by decide +kernel
  have hhidden : ∀ s : Store, s.exposes "k%" "" none = false := fun s => by
    rw [Store.exposes, hlike]
    rfl
  obtain ⟨hshows, hcounts⟩ := sentinel_shown Store.isEmpty_inMemory keyAndMark "k%"
  refine ⟨Store.isEmpty_inMemory, ?_, ?_⟩
  · have hok : ((run Store.inMemory keyAndMark).store.listCurrent "k%" "" 0 true).isOk = true := by
      rw [Store.inMemory_eq]
      decide +kernel
    cases hrows : (run Store.inMemory keyAndMark).store.listCurrent "k%" "" 0 true with
    | error e =>
      rw [hrows] at hok
      cases hok
    | ok rows =>
      refine ⟨rows, rfl, fun row hrow hname => ?_⟩
      have := (hshows.listCurrent "" 0 true rows hrows).1 ⟨row, hrow, hname⟩
      rw [hhidden] at this
      cases this
  · obtain ⟨keys, hbefore, hafter⟩ := (hcounts 2).countCurrent (by decide +kernel) ""
    rw [hbefore, hafter, hhidden, hhidden]

/-- The pattern of all names shows the sentinel, and counts it. -/
theorem sentinel_listed : Store.inMemory.IsEmpty ∧
    recordsOf ((run Store.inMemory [.setCompactRevision 5]).store.listCurrent "%" "" 0 false) =
      .ok [{ name := sentinelName, prevRevision := 5, id := 1 }] ∧
    (run Store.inMemory []).store.countCurrent "%" "" = .ok (0, 0) ∧
    (run Store.inMemory [.setCompactRevision 5]).store.countCurrent "%" "" = .ok (1, 1) := by
  refine ⟨Store.isEmpty_inMemory, ?_, ?_, ?_⟩ <;>
  · rw [Store.inMemory_eq]
    decide +kernel

end Journal

end RevisionLog
