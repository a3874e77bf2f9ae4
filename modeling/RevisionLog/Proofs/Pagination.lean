import RevisionLog.Proofs.Counts

/-!
# Pages of a list

A list can be read in pages: each page has a limit, the next page begins behind the last name of the
one before, and a page that is not full ends the reading (`paged`). A page is cut from what the list
of all answers behind its cursor, and names ascend, so every page goes on exactly where the one
before has ended (`paged_eq`).

A page as of a revision does not see what has been added since (`Table.Extends.select_upTo`). So
reading ends, and the pages together have the records of the list of all, whatever is inserted
between them: `Store.pages_cover`. Names behind a cursor are among those of the list without a
cursor, but with a pattern that is too long only one of the two may be refused
(`Store.cursor_refused`).
-/

namespace RevisionLog

/-- Where the next page begins: behind the last name of this one. -/
def cursorBehind (cursor : String) (page : List Row) : String :=
  (page.getLast?.map (·.record.name)).getD cursor

/-- The rows of a list that is read in pages of `size` rows, from the `k`th page on; that page is
read with `read k`. The first page that has fewer rows is the last; `none` if it does not come
within `fuel` pages. -/
def paged (read : Nat → String → Except LogError (List Row)) (size : Nat) :
    Nat → Nat → String → Option (Except LogError (List Row))
  | 0, _, _ => none
  | fuel + 1, k, cursor =>
    match read k cursor with
    | .error e => some (.error e)
    | .ok page =>
      if page.length < size then some (.ok page)
      else
        (paged read size fuel (k + 1) (cursorBehind cursor page)).map fun rest =>
          rest.map (page ++ ·)

/-! ## Lists in pages -/

section Ascending

variable {α : Type} {f : α → String} {xs : List α}

/-- What comes behind the last entry of the beginning of a list is the rest. -/
theorem filter_behind (hx : xs.Pairwise (f · < f ·)) {size : Nat} {l : α}
    (hl : (xs.take size).getLast? = some l) :
    (xs.filter fun a => f l < f a) = xs.drop size := by
  have hx' := hx
  rw [← List.take_append_drop size xs] at hx'
  obtain ⟨hbefore, -, hbehind⟩ := List.pairwise_append.1 hx'
  have hfront : (xs.take size).filter (fun a => f l < f a) = [] := by
    refine List.filter_eq_nil_iff.2 fun a ha => ?_
    obtain ⟨front, hfront⟩ := List.getLast?_eq_some_iff.1 hl
    rw [hfront] at ha hbefore
    simp only [decide_eq_true_eq]
    rcases List.mem_append.1 ha with ha | ha
    · exact String.lt_asymm ((List.pairwise_append.1 hbefore).2.2 a ha l (.head _))
    · rw [List.mem_singleton.1 ha]
      exact String.lt_irrefl _
  have hrest : (xs.drop size).filter (fun a => f l < f a) = xs.drop size :=
    List.filter_eq_self.2 fun a ha => decide_eq_true (hbehind l (List.mem_of_getLast? hl) a ha)
  conv_lhs => rw [← List.take_append_drop size xs]
  rw [List.filter_append, hfront, hrest, List.nil_append]

theorem filter_filter_behind {a b : String} (hab : a < b) :
    ((xs.filter fun x => a < f x).filter fun x => b < f x) = xs.filter fun x => b < f x := by
  rw [List.filter_filter]
  refine List.filter_congr fun x _ => ?_
  by_cases hb : b < f x
  · simp [hb, String.lt_trans hab hb]
  · simp [hb]

variable {read : Nat → String → Except LogError (List Row)} {size : Nat} {view : Row → α}
  {start : String}

/-- If every page has the beginning of what comes behind its cursor, the pages together have all of
it. The rows are compared by what `view` sees of them. -/
theorem paged_eq (hf : ∀ row, f (view row) = row.record.name)
    (hx : xs.Pairwise (f · < f ·)) (hsize : 0 < size)
    (hread : ∀ k cursor, start ≤ cursor → ∃ page, read k cursor = .ok page ∧
      page.map view = (xs.filter fun a => cursor < f a).take size)
    (k : Nat) {cursor : String} (hc : start ≤ cursor) {fuel : Nat}
    (hfuel : (xs.filter fun a => cursor < f a).length < fuel) :
    ∃ rows, paged read size fuel k cursor = some (.ok rows) ∧
      rows.map view = xs.filter fun a => cursor < f a := by
  induction fuel generalizing k cursor with
  | zero => omega
  | succ fuel ih =>
    obtain ⟨page, hpage, hview⟩ := hread k cursor hc
    have hlength : page.length = min size (xs.filter fun a => cursor < f a).length := by
      rw [← List.length_map (f := view), hview, List.length_take]
    simp only [paged, hpage]
    by_cases hlast : page.length < size
    · rw [if_pos hlast]
      refine ⟨page, rfl, ?_⟩
      rw [hview, List.take_of_length_le (by omega)]
    · rw [if_neg hlast]
      -- a full page has a last row, and the next page begins behind it
      have hne : page ≠ [] := List.ne_nil_of_length_pos (by omega)
      obtain ⟨l, hl⟩ : ∃ l, page.getLast? = some l := ⟨_, List.getLast?_eq_some_getLast hne⟩
      have hl' : ((xs.filter fun a => cursor < f a).take size).getLast? = some (view l) := by
        rw [← hview, List.getLast?_map, hl, Option.map_some]
      have hnext : cursorBehind cursor page = f (view l) := by
        simp [cursorBehind, hl, hf]
      have hbeyond : cursor < f (view l) := by
        have := List.mem_of_mem_take (List.mem_of_getLast? hl')
        simpa using (List.mem_filter.1 this).2
      have hrest : (xs.filter fun a => f (view l) < f a) =
          (xs.filter fun a => cursor < f a).drop size := by
        rw [← filter_filter_behind hbeyond]
        exact filter_behind (hx.filter _) hl'
      have hstart : start ≤ f (view l) :=
        String.le_trans hc (String.not_lt.1 (String.lt_asymm hbeyond))
      obtain ⟨rows, hrows, hrowsView⟩ := ih (k + 1) hstart (by rw [hrest, List.length_drop]; omega)
      refine ⟨page ++ rows, by rw [hnext, hrows]; rfl, ?_⟩
      rw [List.map_append, hview, hrowsView, hrest, List.take_append_drop]

end Ascending

/-! ## Tables -/

namespace Table

variable {t t' : Table} {withDeleted : Bool}

/-- A selection up to a revision does not see what is added above it. -/
theorem Extends.select_upTo (h : t.Extends t') {q : Selection} {revision : Int}
    (hq : q.ceiling = some revision) (hle : revision ≤ t.currentRevision) :
    t'.select q withDeleted = t.select q withDeleted := by
  obtain ⟨new, hrows, hnew⟩ := h.rows
  have hcut : new.filter q.admits = [] := by
    refine List.filter_eq_nil_iff.2 fun r hr => ?_
    have := hnew r hr
    simp only [Selection.admits, Selection.isBelowCeiling, hq, Bool.and_eq_true, decide_eq_true_eq,
      not_and]
    omega
  rw [select, select, hrows, List.filter_append, hcut, List.append_nil]

/-- A list from a cursor has the rows behind it. -/
theorem select_behind (h : ∀ r ∈ t.rows, r.Logged) (pattern cursor : String)
    (ceiling : Option Int) :
    (t.select (.of pattern (some cursor) ceiling) withDeleted).map t.shown =
      ((t.select (.of pattern none ceiling) withDeleted).map t.shown).filter
        fun row => cursor < row.record.name := by
  have habove : ∀ r ∈ t.rows, r.name.isAbove (.text cursor) =
      decide (cursor < (t.shown r).record.name) := by
    intro r hr
    rw [name_eq_shown t (h r hr), Bool.eq_iff_iff, Cell.isAbove_text, Text.encode_lt_iff,
      decide_eq_true_eq]
  rw [select_filter h (p := fun r => r.name.isAbove (.text cursor)) (q := .of pattern none ceiling)
    (fun r s hn => by rw [hn]) fun r hr => ?_, List.filter_map]
  · refine congrArg _ (List.filter_congr fun r hr => ?_)
    exact habove r (mem_of_mem_select hr).1
  · show (r.name.isLike pattern && r.name.isAbove (.text cursor) &&
        (Selection.of pattern none ceiling).isBelowCeiling r) =
      (r.name.isAbove (.text cursor) &&
        (r.name.isLike pattern && true && (Selection.of pattern none ceiling).isBelowCeiling r))
    rw [Bool.and_true, Bool.and_left_comm, Bool.and_assoc]

/-- With a cursor no further rows are compared with the pattern. -/
theorem compared_behind {pattern : String} (cursor : String) {ceiling : Option Int}
    (hnil : t.compared (.of pattern none ceiling) = []) :
    t.compared (.of pattern (some cursor) ceiling) = [] := by
  unfold compared at hnil ⊢
  split at hnil
  · rename_i hname
    have hrows : t.rows = [] := by
      refine List.eq_nil_iff_forall_not_mem.2 fun r hr => ?_
      exact List.filter_eq_nil_iff.1 hnil r hr rfl
    rw [hrows, List.filter_nil]
  · rename_i hname
    rw [if_neg hname]
    exact hnil

theorem shown_ascending (h : ∀ r ∈ t.rows, r.Logged) (q : Selection) :
    ((t.select q withDeleted).map t.shown).Pairwise fun a b => a.record.name < b.record.name :=
  List.pairwise_map.2 (select_ascending h)

theorem map_record_behind (cursor : String) (rows : List Row) :
    (rows.filter fun row => cursor < row.record.name).map (·.record) =
      (rows.map (·.record)).filter fun rec => cursor < rec.name := by
  rw [List.filter_map]
  rfl

/-- Rows of the answers of two tables have the same records. -/
theorem map_shown_record (t t' : Table) (rs : List StoredRow) :
    (rs.map t.shown).map (·.record) = (rs.map t'.shown).map (·.record) := by
  rw [List.map_map, List.map_map]
  rfl

end Table

/-! ## Stores -/

/-- The first page is the last if it has no row, or is refused. -/
theorem paged_first {read : Nat → String → Except LogError (List Row)} {size : Nat}
    (hsize : 0 < size) {cursor : String}
    (hread : read 0 cursor = .ok [] ∨ ∃ e, read 0 cursor = .error e) {fuel : Nat}
    (hfuel : 0 < fuel) : paged read size fuel 0 cursor = some (read 0 cursor) := by
  obtain ⟨fuel, rfl⟩ : ∃ f, fuel = f + 1 := ⟨fuel - 1, by omega⟩
  rcases hread with hpage | ⟨e, he⟩
  · simp [paged, hpage, hsize]
  · simp [paged, he]

namespace Store

/-- The store that page `k` is read from, if something is added behind each page. -/
def later (s : Store) (between : Nat → List Addition) : Nat → Store
  | 0 => s
  | k + 1 => (s.later between k).addAll (between k)

namespace Serves

variable {s : Store} {t : Table} {pattern cursor : String} {revision : Int} {size : Nat}
  {withDeleted : Bool}

theorem later (h : s.Serves t) (ht : t.OfLog) (between : Nat → List Addition) (k : Nat) :
    ∃ t', (s.later between k).Serves t' ∧ t'.OfLog ∧ t.Extends t' := by
  induction k with
  | zero => exact ⟨t, h, ht, .refl t⟩
  | succ k ih =>
    obtain ⟨t', h', ht', hext⟩ := ih
    obtain ⟨t'', h'', ht'', hext'⟩ := h'.addAll ht' (between k)
    exact ⟨t'', h'', ht'', hext.trans hext'⟩

/-- With a pattern that is too long no limit makes a difference: nothing is answered at all. -/
theorem query_long (h : s.Serves t) {q : Selection} (hp : Pattern.isTooComplex q.pattern = true)
    (limit limit' : Int) (withDeleted : Bool) :
    s.query (·.list q limit withDeleted) = s.query (·.list q limit' withDeleted) ∧
      (s.query (·.list q limit withDeleted) = .ok [] ∨
        ∃ e, s.query (·.list q limit withDeleted) = .error e) := by
  rw [h.query, h.query, Table.list_long hp, Table.list_long hp]
  refine ⟨rfl, ?_⟩
  split
  · exact .inl rfl
  · exact .inr ⟨_, rfl⟩

/-- What is as of a revision is read later as now. -/
theorem query_later (h : s.Serves t) (ht : t.OfLog) (hp : Pattern.isTooComplex pattern = false)
    (hle : revision ≤ t.currentRevision) (between : Nat → List Addition) (k : Nat) (limit : Int)
    {floor : Option String} :
    ∃ page, (s.later between k).query
        (·.list (.of pattern floor (some revision)) limit withDeleted) = .ok page ∧
      page.map (·.record) = (capped limit
        ((t.select (.of pattern floor (some revision)) withDeleted).map t.shown)).map
          (·.record) := by
  obtain ⟨t', h', ht', hext⟩ := h.later ht between k
  refine ⟨_, by rw [h'.query, Table.list_eq ht'.logged _ (.inl hp), mapError_ok], ?_⟩
  rw [hext.select_upTo rfl hle, ← capped_map, ← capped_map, Table.map_shown_record t' t]

theorem paged_list (h : s.Serves t) (ht : t.OfLog) (hle : revision ≤ t.currentRevision)
    (hsize : 0 < size) (hcursor : cursor ≠ "") (between : Nat → List Addition) :
    ∃ enough, ∀ fuel ≥ enough,
      (paged (fun k c => (s.later between k).list pattern c size revision withDeleted) size fuel 0
          cursor).map recordsOf =
        some (recordsOf (s.list pattern cursor 0 revision withDeleted)) := by
  cases hp : Pattern.isTooComplex pattern with
  | true =>
    refine ⟨1, fun fuel hfuel => ?_⟩
    have hlong := h.query_long (q := .of pattern (bound cursor) (some revision)) hp size 0
      withDeleted
    rw [← list_eq_query, ← list_eq_query] at hlong
    rw [paged_first hsize hlong.2 hfuel, ← hlong.1]
    rfl
  | false =>
    -- the records of the list that no cursor bounds
    let xs := ((t.select (.of pattern none (some revision)) withDeleted).map t.shown).map (·.record)
    have hread : ∀ k c, cursor ≤ c → ∃ page,
        (s.later between k).list pattern c size revision withDeleted = .ok page ∧
          page.map (·.record) = (xs.filter fun rec => c < rec.name).take size := by
      intro k c hc
      have hc' : c ≠ "" := by
        rintro rfl
        exact hcursor (String.le_antisymm hc (String.not_lt.1 fun hlt =>
          List.not_lt_nil _ (String.lt_iff.1 hlt)))
      rw [list_eq_query, bound, if_neg hc']
      obtain ⟨page, hpage, hrecords⟩ := h.query_later ht hp hle between k size
      refine ⟨page, hpage, ?_⟩
      rw [hrecords, Table.select_behind ht.logged, capped, if_neg (by omega),
        Int.toNat_natCast, List.map_take, Table.map_record_behind]
    refine ⟨(xs.filter fun rec => cursor < rec.name).length + 1, fun fuel hfuel => ?_⟩
    obtain ⟨rows, hrows, hview⟩ := paged_eq (f := fun rec : Record => rec.name) (fun _ => rfl)
      (List.pairwise_map.2 (Table.shown_ascending ht.logged _)) hsize hread 0
      (String.le_refl cursor) hfuel
    rw [hrows, list_eq_query, bound, if_neg hcursor, h.list_ok ht.logged hp, Option.map_some,
      recordsOf, recordsOf, Except.map, Except.map, hview, Table.select_behind ht.logged,
      Table.map_record_behind]

theorem paged_listCurrent (h : s.Serves t) (hlog : ∀ r ∈ t.rows, r.Logged) (hsize : 0 < size)
    (pattern cursor : String) (withDeleted : Bool) :
    ∃ enough, ∀ fuel ≥ enough,
      paged (fun _ c => s.listCurrent pattern c size withDeleted) size fuel 0 cursor =
        some (s.listCurrent pattern cursor 0 withDeleted) := by
  cases hp : Pattern.isTooComplex pattern with
  | true =>
    refine ⟨1, fun fuel hfuel => ?_⟩
    have hlong := h.query_long (q := .of pattern (some cursor) none) hp size 0 withDeleted
    rw [← listCurrent_eq_query, ← listCurrent_eq_query] at hlong
    rw [paged_first hsize hlong.2 hfuel, ← hlong.1]
  | false =>
    let xs := (t.select (.of pattern none none) withDeleted).map t.shown
    have hread : ∀ (k : Nat) c, cursor ≤ c → ∃ page,
        s.listCurrent pattern c size withDeleted = .ok page ∧
          page.map id = (xs.filter fun row => c < row.record.name).take size := by
      intro k c hc
      refine ⟨_, by rw [listCurrent_eq_query, h.query, Table.list_eq hlog _ (.inl hp), mapError_ok],
        ?_⟩
      rw [List.map_id, capped, if_neg (by omega), Int.toNat_natCast, Table.select_behind hlog]
    refine ⟨(xs.filter fun row => cursor < row.record.name).length + 1, fun fuel hfuel => ?_⟩
    obtain ⟨rows, hrows, hview⟩ := paged_eq (f := fun row : Row => row.record.name)
      (fun _ => rfl) (Table.shown_ascending hlog _) hsize hread 0 (String.le_refl cursor) hfuel
    rw [hrows, listCurrent_eq_query, h.list_ok hlog hp, Table.select_behind hlog, ← hview,
      List.map_id']

/-- A list from a cursor answers what the list of all answers behind it. With a pattern that is too
long it may answer nothing though the list of all is refused. -/
theorem list_behind (h : s.Serves t) (hlog : ∀ r ∈ t.rows, r.Logged) (hcursor : cursor ≠ "") :
    Alike pattern (s.dialect.logError .tooComplex) []
      ((s.list pattern "" 0 revision withDeleted).map fun rows =>
        rows.filter fun row => Text.encode cursor < Text.encode row.record.name)
      (s.list pattern cursor 0 revision withDeleted) := by
  have hall : s.list pattern "" 0 revision withDeleted =
      s.query (·.list (.of pattern none (some revision)) 0 withDeleted) := rfl
  rw [hall, list_eq_query, bound, if_neg hcursor]
  cases hp : Pattern.isTooComplex pattern with
  | false =>
    rw [h.list_ok hlog hp, h.list_ok hlog hp, Table.select_behind hlog, Except.map]
    simp only [Text.encode_lt_iff]
    exact .same _
  | true =>
    have hlong : ∀ floor, t.list (.of pattern floor (some revision)) 0 withDeleted =
        if (t.compared (.of "" floor (some revision))).isEmpty then .ok []
        else .error .tooComplex := fun _ => Table.list_long hp 0 withDeleted
    rw [h.query, h.query, hlong, hlong]
    by_cases hnil : t.compared (.of "" none (some revision)) = []
    · have hnil' := Table.compared_behind cursor hnil
      rw [if_pos (List.isEmpty_iff.2 hnil), if_pos (List.isEmpty_iff.2 hnil')]
      exact .same []
    · rw [if_neg (mt List.isEmpty_iff.1 hnil)]
      split
      · exact .relieved hp
      · exact .refused hp

end Serves

variable {s : Store}

/-- A list as of a revision that is read in pages comes to an end, and the pages together have the
records of the list of all, whatever is inserted between them; these are the rows behind the cursor
of the list without a cursor, which may be refused instead if the pattern is too long. The list of
what is current, read in pages while nothing changes, has the rows of the list of all. Lists answer
unless the pattern is too long. -/
theorem pages_cover (hs : s.IsEmpty) (actions : List Action) {size : Nat} (hsize : 0 < size) :
    ∃ current, (s.actAll actions).currentRevision = .ok current ∧ ∀ pattern cursor withDeleted,
      (∀ revision ≤ current, cursor ≠ "" →
        (∀ between : Nat → List Addition, ∃ enough, ∀ fuel ≥ enough,
          (paged (fun k c => ((s.actAll actions).later between k).list pattern c size revision
              withDeleted) size fuel 0 cursor).map recordsOf =
            some (recordsOf ((s.actAll actions).list pattern cursor 0 revision withDeleted))) ∧
        Alike pattern ((s.actAll actions).dialect.logError .tooComplex) []
          (((s.actAll actions).list pattern "" 0 revision withDeleted).map fun rows =>
            rows.filter fun row => Text.encode cursor < Text.encode row.record.name)
          ((s.actAll actions).list pattern cursor 0 revision withDeleted)) ∧
      (∃ enough, ∀ fuel ≥ enough,
        paged (fun _ c => (s.actAll actions).listCurrent pattern c size withDeleted) size fuel 0
            cursor =
          some ((s.actAll actions).listCurrent pattern cursor 0 withDeleted)) ∧
      (Pattern.isTooComplex pattern = false →
        (∃ rows, (s.actAll actions).listCurrent pattern cursor 0 withDeleted = .ok rows) ∧
        ∀ revision, ∃ rows,
          (s.actAll actions).list pattern cursor 0 revision withDeleted = .ok rows) := by
  obtain ⟨t, last, ht, hreg, -⟩ := hs.actAll actions
  have hlog : t.OfLog := ⟨hreg.logged, hreg.counter⟩
  refine ⟨t.currentRevision, ht.currentRevision, fun pattern cursor withDeleted =>
    ⟨fun revision hle hcursor => ⟨fun between => ?_, ?_⟩, ?_, fun hp => ⟨?_, fun revision => ?_⟩⟩⟩
  · exact ht.paged_list hlog hle hsize hcursor between
  · exact ht.list_behind hreg.logged hcursor
  · exact ht.paged_listCurrent hreg.logged hsize pattern cursor withDeleted
  · exact ⟨_, ht.list_ok hreg.logged hp⟩
  · rw [list_eq_query]
    exact ⟨_, ht.list_ok hreg.logged hp⟩

/-- Three keys, the second of them removed. -/
def threeKeys : List Action :=
  [.insert (.create "a" [1]), .insert (.create "b" [2]), .insert (.create "c" [3]),
    .insert { name := "b", deleted := true, createRevision := 2, prevRevision := 2 }]

/-- Behind each page a watermark is set, the last key is updated, and a key is created behind all
others. -/
def crossing (k : Nat) : List Addition :=
  [.setCompactRevision k,
    .insert { name := "c", createRevision := 3, prevRevision := 3, value := [4] },
    .insert (.create "d" [5])]

/-- Pages of one key as of revision 4 pass the removed key, and do not see what is added. -/
theorem pages_cover_crossing : inMemory.IsEmpty ∧ 0 < 1 ∧ "a" ≠ "" ∧
    (inMemory.actAll threeKeys).currentRevision = .ok 4 ∧
    (∃ enough, ∀ fuel ≥ enough,
      (paged (fun k c => ((inMemory.actAll threeKeys).later crossing k).list "%" c (1 : Nat) 4
          false) 1 fuel 0 "a").map recordsOf =
        some (.ok [(Draft.create "c" [3]).readBack 3])) ∧
    ∃ enough, ∀ fuel ≥ enough,
      paged (fun _ c => (inMemory.actAll threeKeys).listCurrent "%" c (1 : Nat) false) 1 fuel 0
          "b" =
        some (.ok [⟨4, 0, (Draft.create "c" [3]).readBack 3⟩]) := by
  have hread : (inMemory.actAll threeKeys).currentRevision = .ok 4 ∧
      recordsOf ((inMemory.actAll threeKeys).list "%" "a" 0 4 false) =
        .ok [(Draft.create "c" [3]).readBack 3] ∧
      (inMemory.actAll threeKeys).listCurrent "%" "b" 0 false =
        .ok [⟨4, 0, (Draft.create "c" [3]).readBack 3⟩] := by
    rw [inMemory_eq]
    decide +kernel
  obtain ⟨hcurrent, hlist, hall⟩ := hread
  obtain ⟨current, hc, h⟩ := pages_cover isEmpty_inMemory threeKeys (by decide : 0 < 1)
  rw [hc, Except.ok.injEq] at hcurrent
  subst hcurrent
  obtain ⟨enough, hpages⟩ := ((h "%" "a" false).1 4 (by decide) (by decide)).1 crossing
  obtain ⟨enough', hpages'⟩ := (h "%" "b" false).2.1
  refine ⟨isEmpty_inMemory, by decide, by decide, hc, ⟨enough, fun fuel hfuel => ?_⟩, enough',
    fun fuel hfuel => ?_⟩
  · rw [hpages fuel hfuel, hlist]
  · rw [hpages' fuel hfuel, hall]

/-- With a pattern that is too long the list behind the only key answers nothing, and the list of
all is refused. -/
theorem cursor_refused : inMemory.IsEmpty ∧
    (inMemory.actAll oneKey).currentRevision = .ok 1 ∧
    (inMemory.actAll oneKey).list Watch.wildPattern "b" 0 1 false = .ok [] ∧
    ∃ e, (inMemory.actAll oneKey).list Watch.wildPattern "" 0 1 false = .error e := by
  have hcompared : (inMemory.actAll oneKey).currentRevision = .ok 1 ∧
      (inMemory.actAll oneKey).table?.map (fun t =>
        (t.compared (.of "" (some "b") (some 1))).isEmpty) = some true ∧
      (inMemory.actAll oneKey).table?.map (fun t =>
        (t.compared (.of "" none (some 1))).isEmpty) = some false := by
    rw [inMemory_eq]
    decide +kernel
  obtain ⟨hcurrent, hnone, hsome⟩ := hcompared
  obtain ⟨t, last, ht, hreg, -⟩ := isEmpty_inMemory.actAll oneKey
  rw [ht.table, Option.map_some, Option.some.injEq] at hnone hsome
  -- evaluation would take the pattern apart, so it stays a variable here
  have hall : ∀ pattern, Pattern.isTooComplex pattern = true →
      (inMemory.actAll oneKey).list pattern "" 0 1 false =
        .error ((inMemory.actAll oneKey).dialect.logError .tooComplex) := by
    intro pattern hp
    have hlong : t.list (.of pattern none (some 1)) 0 false = .error .tooComplex :=
      (Table.list_long hp 0 false).trans (if_neg fun h => Bool.false_ne_true (hsome.symm.trans h))
    rw [list_eq_query, bound, if_pos rfl, ht.query, hlong, mapError_error]
  refine ⟨isEmpty_inMemory, hcurrent, ?_, _, hall _ Watch.isTooComplex_wildPattern⟩
  exact (ht.list_long Watch.isTooComplex_wildPattern (by decide) 0 1 false).trans (if_pos hnone)

end Store

end RevisionLog
