import RevisionLog.Proofs.Course
import RevisionLog.Proofs.Opening

/-!
# What reads see of a compaction

A compaction is invisible to reads at or above its target: they answer the same records and counts
before and after it (`Course.compact_invisible`). A sweep removes a live record only if a later one
up to the target takes its place, and what it leaves of a name it removes from the older end on, so
the newest record that a selection admits stays the newest (`Keeps.select_sweep`).

Patterns over 50000 bytes the engine refuses only if it has a row to compare with them. No read
with such a pattern answers anything, but one that was refused may answer nothing once a compaction
has removed the rows (`Alike`).
-/

namespace RevisionLog

open History

/-! ## The newest row of each name -/

/-- Of the rows that a selection admits, none of the same name has a higher id. -/
def Table.isNewest (t : Table) (q : Selection) (r : StoredRow) : Bool :=
  (t.rows.filter q.admits).all fun s => s.name != r.name || s.id ≤ r.id

theorem newestPerName_eq {rs : List StoredRow} (h : rs.Pairwise (·.id < ·.id)) :
    newestPerName rs = rs.filter fun r => rs.all fun s => s.name != r.name || s.id ≤ r.id := by
  induction rs with
  | nil => rfl
  | cons r rs ih =>
    obtain ⟨hr, hrs⟩ := List.pairwise_cons.1 h
    have htail : rs.filter (fun x => (r :: rs).all fun s => s.name != x.name || s.id ≤ x.id) =
        newestPerName rs := by
      rw [ih hrs]
      refine List.filter_congr fun x hx => ?_
      have := hr x hx
      simp [Int.le_of_lt this]
    by_cases hlater : ∃ s ∈ rs, s.name = r.name
    · obtain ⟨s, hs, hn⟩ := hlater
      have hlt := hr s hs
      rw [newestPerName, if_pos (by simpa using ⟨s, hs, hn⟩), List.filter_cons_of_neg, htail]
      simp only [List.all_cons, Bool.and_eq_true, List.all_eq_true, not_and, not_forall]
      exact fun _ => ⟨s, hs, by simp [hn]; omega⟩
    · have hnone : ∀ s ∈ rs, s.name ≠ r.name := fun s hs hn => hlater ⟨s, hs, hn⟩
      rw [newestPerName, if_neg (by simpa using hnone), List.filter_cons_of_pos, htail]
      simp only [List.all_cons, Bool.and_eq_true, List.all_eq_true]
      exact ⟨by simp, fun s hs => by simp [hnone s hs]⟩

theorem mem_of_mem_newestPerName {rs : List StoredRow} {r : StoredRow}
    (h : r ∈ newestPerName rs) : r ∈ rs := by
  induction rs with
  | nil => exact h
  | cons s rs ih =>
    rw [newestPerName] at h
    split at h
    · exact .tail _ (ih h)
    · rcases List.mem_cons.1 h with rfl | h
      · exact .head _
      · exact .tail _ (ih h)

theorem mem_of_mem_capped {α : Type} {limit : Int} {xs : List α} {x : α} (h : x ∈ capped limit xs) :
    x ∈ xs := by
  unfold capped at h
  split at h
  · exact h
  · exact List.mem_of_mem_take h

theorem capped_nil {α : Type} (limit : Int) : capped limit ([] : List α) = [] := by
  unfold capped
  split <;> simp

theorem Selection.isLike_of_admits (q : Selection) {r : StoredRow} (h : q.admits r = true) :
    r.name.isLike q.pattern = true := by
  simp only [admits, Bool.and_eq_true] at h
  exact h.1.1

namespace Table

/-- The rows that a list answers, before they are sorted. -/
theorem select_eq (t : Table) (q : Selection) :
    t.select q false = (t.rows.filter fun r =>
      q.admits r && t.isNewest q r && r.deleted.equals (.int 0)).mergeSort
        fun r s => r.name.order s.name != .gt := by
  rw [select, newestPerName_eq (t.ascending.filter _), List.filter_filter, List.filter_filter]
  congr 1
  refine List.filter_congr fun r _ => ?_
  have hflag : r.deleted.equals (.flag false) = r.deleted.equals (.int 0) := rfl
  rw [hflag, Bool.or_self, isNewest]
  cases q.admits r <;> simp [Bool.and_comm]

theorem isNewest_iff {t : Table} {q : Selection} {r : StoredRow} : t.isNewest q r = true ↔
    ∀ s ∈ t.rows, q.admits s = true → s.name = r.name → s.id ≤ r.id := by
  simp only [isNewest, List.all_eq_true, List.mem_filter, Bool.or_eq_true, bne_iff_ne,
    decide_eq_true_eq, and_imp]
  exact forall₃_congr fun s _ _ =>
    ⟨fun h hn => h.resolve_left (· hn), fun h => or_iff_not_imp_left.2 fun hn => h (not_not.1 hn)⟩

/-- The rows that a list looks at are among those that it compares. -/
theorem mem_compared {t : Table} {q : Selection} {r : StoredRow} (hr : r ∈ t.rows)
    (ha : q.admits r = true) : r ∈ t.compared q := by
  simp only [Selection.admits, Bool.and_eq_true] at ha
  rw [compared, List.mem_filter]
  split
  · exact ⟨hr, ha.1.2⟩
  · exact ⟨hr, ha.2⟩

theorem mem_of_mem_select {t : Table} {q : Selection} {withDeleted : Bool} {r : StoredRow}
    (hr : r ∈ t.select q withDeleted) : r ∈ t.rows ∧ q.admits r = true := by
  rw [select, List.mem_mergeSort, List.mem_filter] at hr
  exact List.mem_filter.1 (mem_of_mem_newestPerName hr.1)

theorem logged_list {t : Table} {q : Selection} {limit : Int} {withDeleted : Bool}
    (hlog : ∀ r ∈ t.rows, r.Logged) : ∀ r ∈ capped limit (t.select q withDeleted), r.Logged :=
  fun r hr => hlog r (mem_of_mem_select (mem_of_mem_capped hr)).1

theorem logged_after {t : Table} {pattern : String} {revision limit : Int}
    (hlog : ∀ r ∈ t.rows, r.Logged) :
    ∀ r ∈ capped limit ((t.rows.filter fun r => revision < r.id).filter (·.name.isLike pattern)),
      r.Logged :=
  fun r hr => hlog r (List.mem_filter.1 (List.mem_filter.1 (mem_of_mem_capped hr)).1).1

/-- A list that is not refused answers the rows that it selects. -/
theorem answer_of_list {t : Table} {q : Selection} {limit : Int} {withDeleted : Bool}
    {out : List Row} (h : t.list q limit withDeleted = .ok out) :
    t.answer (capped limit (t.select q withDeleted)) = .ok out := by
  unfold list at h
  split at h
  · cases h
  · exact h

theorem answer_of_after {t : Table} {pattern : String} {revision limit : Int} {out : List Row}
    (h : t.after pattern revision limit = .ok out) :
    t.answer (capped limit ((t.rows.filter fun r => revision < r.id).filter
      (·.name.isLike pattern))) = .ok out := by
  unfold after at h
  dsimp only at h
  split at h
  · cases h
  · exact h

theorem select_of_compared {t : Table} {q : Selection} (h : t.compared q = []) (withDeleted : Bool) :
    t.select q withDeleted = [] := by
  refine List.eq_nil_iff_forall_not_mem.2 fun r hr => ?_
  obtain ⟨hr, ha⟩ := mem_of_mem_select hr
  have := mem_compared hr ha
  rw [h] at this
  cases this

namespace Keeps

variable {K : String → Prop} {t : Table} {past : List Record} {reach target : Int}

/-- A row whose name matches a pattern that does not match the sentinel is a record's. -/
theorem record_of_isLike (h : t.Keeps K past reach) {pattern : String}
    (hp : (Cell.text sentinelName).isLike pattern = false) {r : StoredRow} (hr : r ∈ t.rows)
    (hlike : r.name.isLike pattern = true) :
    ∃ b ∈ past, remains reach past b = true ∧ b.row = r := by
  obtain ⟨n, hn, hor⟩ := h.named r hr
  have hne : n ≠ sentinelName := by
    rintro rfl
    rw [hn, hp] at hlike
    cases hlike
  obtain ⟨b, hb, rfl⟩ := (h.mem_rows (hor.resolve_right hne)).1 ⟨hr, hn⟩
  obtain ⟨hbp, -, hrem⟩ := mem_remaining.1 hb
  exact ⟨b, hbp, hrem, rfl⟩

/-- The row of a later record of the same name, up to the ceiling, is admitted as well. -/
theorem admits_later {q : Selection} {b g : Record} (ha : q.admits b.row = true)
    (hn : g.name = b.name) (hceiling : ∀ ceiling, q.ceiling = some ceiling → g.id ≤ ceiling) :
    q.admits g.row = true := by
  simp only [Selection.admits, Selection.isPastFloor, Record.row_name, Bool.and_eq_true, hn]
    at ha ⊢
  refine ⟨ha.1, ?_⟩
  unfold Selection.isBelowCeiling
  split
  · rfl
  · rename_i ceiling hc
    exact decide_eq_true (hceiling ceiling hc)

/-- A sweep removes no row that a selection at or above its target answers, and brings none to
light. -/
theorem select_sweep (h : t.Keeps K past reach) (hK : ¬ K sentinelName) {q : Selection}
    (hp : (Cell.text sentinelName).isLike q.pattern = false)
    (hceiling : ∀ ceiling, q.ceiling = some ceiling → target ≤ ceiling) :
    (t.sweepTo target).2.select q false = t.select q false := by
  rw [select_eq, select_eq, sweepTo_rows, List.filter_filter]
  congr 1
  refine List.filter_congr fun r hr => ?_
  rw [Bool.eq_iff_iff]
  simp only [Bool.and_eq_true, Bool.not_eq_true', isNewest_iff, sweepTo_rows, List.mem_filter]
  constructor
  · -- what the sweep removes of the name is older than the row that it leaves
    rintro ⟨⟨⟨ha, hnew⟩, hl⟩, hkept⟩
    refine ⟨⟨ha, fun s hs hsa hn => ?_⟩, hl⟩
    obtain ⟨b, hb, hrem, rfl⟩ := h.record_of_isLike hp hr (q.isLike_of_admits ha)
    obtain ⟨g, hg, hgrem, rfl⟩ := h.record_of_isLike hp hs (q.isLike_of_admits hsa)
    by_contra hlt
    have hgb : g.name = b.name := by simpa using hn
    have hswept : t.isSwept target g.row = true := by
      by_contra hg'
      exact hlt (hnew g.row ⟨hs, by simpa using hg'⟩ hsa hn)
    rw [h.isSwept_iff hK hg hgrem] at hswept
    rw [← Bool.not_eq_true, h.isSwept_iff hK hb hrem, Bool.not_eq_false] at hkept
    have := remains_of_le hg hgb (Int.not_le.1 hlt) hkept
    rw [hswept] at this
    cases this
  · -- a live row that the sweep removes is not the newest that is admitted
    rintro ⟨⟨ha, hnew⟩, hl⟩
    refine ⟨⟨⟨ha, fun s hs => hnew s hs.1⟩, hl⟩, ?_⟩
    obtain ⟨b, hb, hrem, rfl⟩ := h.record_of_isLike hp hr (q.isLike_of_admits ha)
    rw [← Bool.not_eq_true, h.isSwept_iff hK hb hrem]
    intro hgone
    have hlive : b.deleted = false := by simpa using hl
    obtain ⟨g, hg, hgrem, hn, hlt, hle⟩ := (h.written.swept_le hb hrem hgone).2 hlive
    have hga := admits_later ha hn fun ceiling hc =>
      Int.le_trans hle (hceiling ceiling hc)
    have := hnew g.row (h.row_mem hg hgrem) hga (by simp [hn])
    simp at this
    omega

/-- A sweep removes no row above its target but watermarks. -/
theorem after_sweep (h : t.Keeps K past reach) (hK : ¬ K sentinelName) {pattern : String}
    (hp : (Cell.text sentinelName).isLike pattern = false) {floor : Int} (hfloor : target ≤ floor) :
    ((t.sweepTo target).2.rows.filter fun r => floor < r.id).filter (·.name.isLike pattern) =
      (t.rows.filter fun r => floor < r.id).filter (·.name.isLike pattern) := by
  simp only [sweepTo_rows, List.filter_filter]
  refine List.filter_congr fun r hr => ?_
  rw [Bool.eq_iff_iff]
  simp only [Bool.and_eq_true, Bool.not_eq_true', decide_eq_true_eq]
  refine ⟨fun ha => ⟨ha.1, ha.2.1⟩, fun ha => ⟨ha.1, ha.2, ?_⟩⟩
  obtain ⟨b, hb, hrem, rfl⟩ := h.record_of_isLike hp hr ha.1
  rw [← Bool.not_eq_true, h.isSwept_iff hK hb hrem]
  intro hgone
  have hle := (h.written.swept_le hb hrem hgone).1
  have hlt : floor < b.id := ha.2
  omega

end Keeps

end Table

/-! ## Reads that answer alike -/

/-- What a read answers before and after a compaction: the same, unless the engine has refused its
pattern as too long. It may then answer nothing after, or be refused again. -/
inductive Alike {ε α : Type} (pattern : String) (refusal : ε) (nothing : α) :
    Except ε α → Except ε α → Prop
  | same (a : α) : Alike pattern refusal nothing (.ok a) (.ok a)
  | refused : Pattern.isTooComplex pattern = true →
    Alike pattern refusal nothing (.error refusal) (.error refusal)
  | relieved : Pattern.isTooComplex pattern = true →
    Alike pattern refusal nothing (.error refusal) (.ok nothing)

/-- With any other pattern a read answers, and the same. -/
theorem Alike.eq_ok {ε α : Type} {pattern : String} {refusal : ε} {nothing : α}
    {before after : Except ε α} (h : Alike pattern refusal nothing before after)
    (hp : Pattern.isTooComplex pattern = false) : ∃ a, before = .ok a ∧ after = .ok a := by
  cases h with
  | same a => exact ⟨a, rfl, rfl⟩
  | refused hlong => rw [hp] at hlong; cases hlong
  | relieved hlong => rw [hp] at hlong; cases hlong

theorem Alike.mapError {ε ε' α : Type} {pattern : String} {refusal : ε} {nothing : α}
    {before after : Except ε α} (h : Alike pattern refusal nothing before after) (f : ε → ε') :
    Alike pattern (f refusal) nothing (before.mapError f) (after.mapError f) := by
  cases h with
  | same a => exact .same a
  | refused hp => exact .refused hp
  | relieved hp => exact .relieved hp

/-- A read that is guarded against long patterns; the guard lets through what has no row to
compare. -/
theorem Alike.of_guarded {α β : Type} {pattern : String} {x y : Except Fault β} {f : β → α}
    {a nothing : α} {b b' : Bool} (hb : b = true → b' = true) (hx : x.map f = .ok a)
    (hy : y.map f = .ok a) (hnothing : b' = true → a = nothing) :
    Alike pattern Fault.tooComplex nothing
      (Except.map f (if Pattern.isTooComplex pattern && !b then .error .tooComplex else x))
      (Except.map f (if Pattern.isTooComplex pattern && !b' then .error .tooComplex else y)) := by
  cases hp : Pattern.isTooComplex pattern with
  | false => simpa [hx, hy] using .same a
  | true =>
    cases b with
    | true => simpa [hb rfl, hx, hy] using .same a
    | false =>
      cases b' with
      | true =>
        rw [hnothing rfl] at hy
        simpa [hy] using .relieved hp
      | false => exact .refused hp

/-- The records of rows. -/
def recordsOf {ε : Type} (r : Except ε (List Row)) : Except ε (List Record) :=
  r.map fun rows => rows.map (·.record)

/-- The number that was counted. -/
def numberOf {ε : Type} (r : Except ε (Int × Nat)) : Except ε Nat := r.map (·.2)

/-- The table `t'` shows what `t` shows at or above `target`. -/
structure Table.ShowsAlike (t : Table) (target : Int) (t' : Table) : Prop where
  logged : ∀ r ∈ t.rows, r.Logged
  rows : ∀ r ∈ t'.rows, r ∈ t.rows
  indexes : t'.indexes = t.indexes
  select : ∀ q : Selection, (Cell.text sentinelName).isLike q.pattern = false →
    (∀ ceiling, q.ceiling = some ceiling → target ≤ ceiling) →
    t'.select q false = t.select q false
  after : ∀ pattern, (Cell.text sentinelName).isLike pattern = false → ∀ floor, target ≤ floor →
    (t'.rows.filter fun r => floor < r.id).filter (·.name.isLike pattern) =
      (t.rows.filter fun r => floor < r.id).filter (·.name.isLike pattern)

namespace Table

theorem Keeps.showsAlike {K : String → Prop} {t : Table} {past : List Record} {reach : Int}
    (h : t.Keeps K past reach) (hK : ¬ K sentinelName) (target : Int) :
    t.ShowsAlike target (if 0 < target then (t.sweepTo target).2 else t) := by
  split
  · exact ⟨h.logged, fun r hr => (List.mem_filter.1 hr).1, rfl,
      fun _ hp hc => h.select_sweep hK hp hc, fun _ hp _ hf => h.after_sweep hK hp hf⟩
  · exact ⟨h.logged, fun _ hr => hr, rfl, fun _ _ _ => rfl, fun _ _ _ _ => rfl⟩

section Alike

variable {t t' : Table} {q q' : Selection} {withDeleted : Bool}

/-- Two tables that the log has written answer rows with the same records. -/
theorem answer_alike (h : ∀ r ∈ t.rows, r.Logged) (h' : ∀ r ∈ t'.rows, r.Logged)
    {rows : List StoredRow} (hrows : ∀ r ∈ rows, r.Logged) :
    ∃ out, recordsOf (t.answer rows) = .ok out ∧ recordsOf (t'.answer rows) = .ok out ∧
      (rows = [] → out = []) := by
  obtain ⟨out, ho, hr⟩ := answer_ok h hrows
  obtain ⟨out', ho', hr'⟩ := answer_ok h' hrows
  refine ⟨_, by rw [ho]; rfl, by rw [ho', recordsOf, Except.map, hr', ← hr], ?_⟩
  rintro rfl
  simpa using hr

/-- Lists that select the same rows answer alike, if the second compares none where the first
does not. -/
theorem list_alike (h : ∀ r ∈ t.rows, r.Logged) (h' : ∀ r ∈ t'.rows, r.Logged)
    (hp : q'.pattern = q.pattern) (hselect : t'.select q' withDeleted = t.select q withDeleted)
    (hcompared : t.compared q = [] → t'.compared q' = []) (limit : Int) :
    Alike q.pattern Fault.tooComplex [] (recordsOf (t.list q limit withDeleted))
      (recordsOf (t'.list q' limit withDeleted)) := by
  obtain ⟨out, hout, hout', hnil⟩ := answer_alike h h' (logged_list h)
  unfold Table.list
  rw [hselect, hp]
  refine .of_guarded (fun hb => ?_) hout hout' fun hb => hnil ?_
  · rw [List.isEmpty_iff] at hb ⊢
    exact hcompared hb
  · rw [List.isEmpty_iff] at hb
    rw [← hselect, select_of_compared hb, capped_nil]

/-- Counts of lists that select the same rows are alike in the same way. -/
theorem count_alike (hp : q'.pattern = q.pattern) (hselect : t'.select q' false = t.select q false)
    (hcompared : t.compared q = [] → t'.compared q' = []) :
    Alike q.pattern Fault.tooComplex 0 (numberOf (t.count q)) (numberOf (t'.count q')) := by
  unfold Table.count
  rw [hselect, hp]
  refine .of_guarded (fun hb => ?_) rfl rfl fun hb => ?_
  · rw [List.isEmpty_iff] at hb ⊢
    exact hcompared hb
  · rw [List.isEmpty_iff] at hb
    simp [← hselect, select_of_compared hb]

end Alike

namespace ShowsAlike

variable {target : Int} {t t' : Table} {q : Selection} {pattern : String}

theorem logged' (h : t.ShowsAlike target t') : ∀ r ∈ t'.rows, r.Logged :=
  fun r hr => h.logged r (h.rows r hr)

/-- What has no row to compare with a pattern has none after. -/
theorem compared_nil (h : t.ShowsAlike target t') (q : Selection) (hnil : t.compared q = []) :
    t'.compared q = [] := by
  refine List.eq_nil_iff_forall_not_mem.2 fun r hr => ?_
  have hr' : r ∈ t.compared q := by
    rw [compared, hasNameOrder, h.indexes, List.mem_filter] at hr
    exact List.mem_filter.2 ⟨h.rows r hr.1, hr.2⟩
  rw [hnil] at hr'
  cases hr'

theorem list (h : t.ShowsAlike target t') (hp : (Cell.text sentinelName).isLike q.pattern = false)
    (hc : ∀ ceiling, q.ceiling = some ceiling → target ≤ ceiling) (limit : Int) :
    Alike q.pattern Fault.tooComplex [] (recordsOf (t.list q limit false))
      (recordsOf (t'.list q limit false)) :=
  list_alike h.logged h.logged' rfl (h.select q hp hc) (h.compared_nil q) limit

theorem count (h : t.ShowsAlike target t') (hp : (Cell.text sentinelName).isLike q.pattern = false)
    (hc : ∀ ceiling, q.ceiling = some ceiling → target ≤ ceiling) :
    Alike q.pattern Fault.tooComplex 0 (numberOf (t.count q)) (numberOf (t'.count q)) :=
  count_alike rfl (h.select q hp hc) (h.compared_nil q)

theorem listAfter (h : t.ShowsAlike target t')
    (hp : (Cell.text sentinelName).isLike pattern = false) {floor : Int} (hf : target ≤ floor)
    (limit : Int) :
    Alike pattern Fault.tooComplex [] (recordsOf (t.after pattern floor limit))
      (recordsOf (t'.after pattern floor limit)) := by
  obtain ⟨out, hout, hout', hnil⟩ := answer_alike h.logged h.logged' (logged_after h.logged)
  unfold Table.after
  simp only [h.after pattern hp floor hf]
  refine .of_guarded (fun hb => ?_) hout hout' fun hb => hnil ?_
  · simp only [List.isEmpty_iff, List.filter_eq_nil_iff] at hb ⊢
    exact fun r hr => hb r (h.rows r hr)
  · rw [List.isEmpty_iff] at hb
    rw [← h.after pattern hp floor hf, hb, List.filter_nil, capped_nil]

end ShowsAlike

end Table

namespace Store

/-- Reads at or above `target` answer alike in two stores. The refusal is the engine's. -/
structure ReadsAlike (s : Store) (target : Int) (pattern : String) (s' : Store) : Prop where
  listCurrent : ∀ start limit, Alike pattern (s.dialect.logError .tooComplex) []
    (recordsOf (s.listCurrent pattern start limit false))
    (recordsOf (s'.listCurrent pattern start limit false))
  list : ∀ start limit revision, target ≤ revision →
    Alike pattern (s.dialect.logError .tooComplex) []
      (recordsOf (s.list pattern start limit revision false))
      (recordsOf (s'.list pattern start limit revision false))
  countCurrent : ∀ start, Alike pattern (s.dialect.logError .tooComplex) 0
    (numberOf (s.countCurrent pattern start)) (numberOf (s'.countCurrent pattern start))
  count : ∀ start revision, target ≤ revision →
    Alike pattern (s.dialect.logError .tooComplex) 0
      (numberOf (s.count pattern start revision)) (numberOf (s'.count pattern start revision))
  after : ∀ revision limit, target ≤ revision →
    Alike pattern (s.dialect.logError .tooComplex) []
      (recordsOf (s.after pattern revision limit)) (recordsOf (s'.after pattern revision limit))

/-- What two tables answer alike, two stores on them do. -/
theorem Serves.query_alike {s s' : Store} {t t' : Table} (hs : s.Serves t) (hs' : s'.Serves t')
    (hd : s'.dialect = s.dialect) {α β : Type} {pattern : String} {nothing : β}
    {f f' : Table → Except Fault α} {g : α → β}
    (h : Alike pattern Fault.tooComplex nothing ((f t).map g) ((f' t').map g)) :
    Alike pattern (s.dialect.logError .tooComplex) nothing ((s.query f).map g)
      ((s'.query f').map g) := by
  have hmap : ∀ x : Except Fault α,
      (x.mapError s.dialect.logError).map g = (x.map g).mapError s.dialect.logError := by
    intro x
    cases x <;> rfl
  rw [hs.query, hs'.query, hd, hmap, hmap]
  exact h.mapError _

theorem Serves.readsAlike {s s' : Store} {t t' : Table} (hs : s.Serves t) (hs' : s'.Serves t')
    (hd : s'.dialect = s.dialect) {target : Int} (h : t.ShowsAlike target t') {pattern : String}
    (hp : (Cell.text sentinelName).isLike pattern = false) :
    s.ReadsAlike target pattern s' where
  listCurrent := fun start limit =>
    hs.query_alike hs' hd
      (h.list (q := { pattern, floor := some (.text start) }) hp (fun _ hc => nomatch hc) limit)
  list := fun _ limit revision hle =>
    hs.query_alike hs' hd (h.list (q := { pattern, floor := _, ceiling := some revision }) hp
      (fun _ hc => Option.some.inj hc ▸ hle) limit)
  countCurrent := fun start =>
    hs.query_alike hs' hd
      (h.count (q := { pattern, floor := some (.text start) }) hp fun _ hc => nomatch hc)
  count := fun start revision hle =>
    hs.query_alike hs' hd
      (h.count (q := { pattern, floor := some (.text start), ceiling := some revision }) hp
        fun _ hc => Option.some.inj hc ▸ hle)
  after := fun _ limit hle => hs.query_alike hs' hd (h.listAfter hp hle limit)

end Store

/-- A compaction never fails, and is invisible to reads at or above its target. -/
theorem Course.compact_invisible {s : Store} (hs : s.IsEmpty) (steps : List Step) (revision : Int) :
    ∃ w sweep after, (run s steps).store.compactRevision = .ok w ∧
      (run s steps).store.compact revision = (.ok sweep, after) ∧ sweep.target = min revision w ∧
      ∀ pattern, (Cell.text sentinelName).isLike pattern = false →
        (run s steps).store.ReadsAlike sweep.target pattern after := by
  obtain ⟨t, t', w, sweep, s', ht, hk, -, hw, hcompact, htarget, ht', hd, rfl⟩ :=
    (kept_run hs steps).compact_table revision
  exact ⟨w, sweep, s', hw, hcompact, htarget, fun pattern hp =>
    ht.readsAlike ht' hd (hk.showsAlike not_ordinary sweep.target) hp⟩

namespace Course

/-- A key with two versions. -/
def updated : List Step :=
  [.write .sample (.put [1]) none, .write .sample (.put [2]) none, .setCompactRevision 2]

/-- Sweeping the older one does not change the list. -/
theorem compact_invisible_updated : Store.inMemory.IsEmpty ∧
    (Cell.text sentinelName).isLike "k%" = false ∧
    recordsOf ((run Store.inMemory updated).store.listCurrent "k%" "" 0 false) =
      recordsOf (((run Store.inMemory updated).store.compact 2).2.listCurrent "k%" "" 0 false) := by
  have hp : (Cell.text sentinelName).isLike "k%" = false := by decide +kernel
  obtain ⟨_, _, _, _, hc, _, h⟩ := compact_invisible Store.isEmpty_inMemory updated 2
  obtain ⟨a, hbefore, hafter⟩ := ((h "k%" hp).listCurrent "" 0).eq_ok (by decide +kernel)
  exact ⟨Store.isEmpty_inMemory, hp, by rw [hc, hbefore, hafter]⟩

end Course

/-! ## Patterns that are too long -/

theorem length_le_utf8ByteSize (cs : List Char) : cs.length ≤ (String.ofList cs).utf8ByteSize := by
  induction cs with
  | nil => simp
  | cons c cs ih =>
    have := c.utf8Size_pos
    rw [String.ofList_cons, String.utf8ByteSize_append, String.utf8ByteSize_singleton,
      List.length_cons]
    omega

/-- A pattern that begins with another character than the subject, and not with a wildcard. -/
theorem Pattern.not_accepts {q c : Nat} (hrun : q ≠ anyRun) (hone : matchesOne q c = false)
    (p cs : List Nat) : accepts (q :: p) (c :: cs) = false := by
  have hrun' : (q == anyRun) = false := by simpa using hrun
  simp only [accepts, onSuffixes, hrun']
  cases (onSuffixes p (c :: cs)).tail with
  | nil => rfl
  | cons later rest => simp [hone]

/-- A pattern that begins with another letter does not match the sentinel. -/
theorem sentinel_not_like (cs : List Char) :
    (Cell.text sentinelName).isLike (String.ofList ('a' :: cs)) = false := by
  have hp : ∃ p, Pattern.codes (String.ofList ('a' :: cs)) = 'a'.toNat :: p := by
    rw [Pattern.codes, String.toList_ofList, List.takeWhile_cons_of_pos (by decide), List.map_cons]
    exact ⟨_, rfl⟩
  have hs : (Pattern.codes sentinelName).head? = some 'c'.toNat := by decide +kernel
  obtain ⟨p, hp⟩ := hp
  obtain ⟨c, hs⟩ := List.head?_eq_some_iff.1 hs
  rw [Cell.isLike, Cell.codes, hp, hs]
  exact Pattern.not_accepts (by decide) (by decide) p c

/-- A pattern of one byte too many. -/
def longPattern : String := String.ofList ('a' :: List.replicate Pattern.maxBytes 'a')

theorem isTooComplex_longPattern : Pattern.isTooComplex longPattern = true := by
  have := length_le_utf8ByteSize ('a' :: List.replicate Pattern.maxBytes 'a')
  rw [List.length_cons, List.length_replicate] at this
  exact decide_eq_true this

/-- With a long pattern a list is refused if it has a row to compare, and answers nothing if not. -/
theorem Table.list_long {t : Table} {q : Selection} (hp : Pattern.isTooComplex q.pattern = true)
    (limit : Int) (withDeleted : Bool) :
    t.list q limit withDeleted =
      if (t.compared { q with pattern := "" }).isEmpty then .ok [] else .error .tooComplex := by
  have hcompared : t.compared { q with pattern := "" } = t.compared q := rfl
  rw [hcompared, Table.list, hp]
  cases he : (t.compared q).isEmpty with
  | false => rfl
  | true =>
    rw [List.isEmpty_iff] at he
    simp [Table.select_of_compared he, capped_nil, Table.answer, pure, Except.pure]

theorem Store.Serves.listCurrent_long {s : Store} {t : Table} (h : s.Serves t)
    {pattern cursor : String} (hp : Pattern.isTooComplex pattern = true) (limit : Int) :
    s.listCurrent pattern cursor limit false =
      if (t.compared { pattern := "", floor := some (.text cursor) }).isEmpty then .ok []
      else .error (s.dialect.logError .tooComplex) := by
  rw [listCurrent, h.query, Table.list_long hp]
  split <;> rfl

theorem Store.Serves.list_long {s : Store} {t : Table} (h : s.Serves t) {pattern cursor : String}
    (hp : Pattern.isTooComplex pattern = true) (hcursor : cursor ≠ "")
    (limit revision : Int) (withDeleted : Bool) :
    s.list pattern cursor limit revision withDeleted =
      if (t.compared
          { pattern := "", floor := some (.text cursor), ceiling := some revision }).isEmpty then
        .ok []
      else .error (s.dialect.logError .tooComplex) := by
  have hc : (cursor == "") = false := by simpa using hcursor
  simp only [list, hc, h.query, Bool.false_eq_true, if_false]
  rw [Table.list_long hp]
  split <;> rfl

namespace Course

/-- A key that is gone. -/
def removed : List Step :=
  [.write .sample (.put [1]) none, .write .sample .remove none, .setCompactRevision 2]

/-- A list whose pattern is too long is refused before a compaction that removes the tombstone, and
answers nothing after it. -/
theorem compact_relieves : Store.inMemory.IsEmpty ∧
    (Cell.text sentinelName).isLike longPattern = false ∧
    (∃ e, (run Store.inMemory removed).store.listCurrent longPattern "d" 0 false = .error e) ∧
    ((run Store.inMemory removed).store.compact 2).2.listCurrent longPattern "d" 0 false =
      .ok [] := by
  have hrow : (run Store.inMemory removed).store.table?.map (fun t =>
      (t.compared { pattern := "", floor := some (.text "d") }).isEmpty) = some false := by
    rw [Store.inMemory_eq]
    decide +kernel
  have hgone : ((run Store.inMemory removed).store.compact 2).2.table?.map (fun t =>
      (t.compared { pattern := "", floor := some (.text "d") }).isEmpty) = some true := by
    rw [Store.inMemory_eq]
    decide +kernel
  obtain ⟨t, t', w, sweep, s', ht, -, -, -, hs, -, ht', -⟩ :=
    (kept_run Store.isEmpty_inMemory removed).compact_table 2
  rw [hs] at hgone ⊢
  rw [ht.table, Option.map_some, Option.some.injEq] at hrow
  rw [ht'.table, Option.map_some, Option.some.injEq] at hgone
  have hbefore : (run Store.inMemory removed).store.listCurrent longPattern "d" 0 false =
      .error ((run Store.inMemory removed).store.dialect.logError .tooComplex) := by
    rw [ht.listCurrent_long isTooComplex_longPattern, hrow]
    rfl
  refine ⟨Store.isEmpty_inMemory, sentinel_not_like _, ⟨_, hbefore⟩, ?_⟩
  rw [ht'.listCurrent_long isTooComplex_longPattern, hgone]
  rfl

end Course

end RevisionLog
