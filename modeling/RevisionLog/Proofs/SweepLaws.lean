import RevisionLog.Proofs.Actions
import RevisionLog.Proofs.Opening
import RevisionLog.Proofs.Sweeps
import RevisionLog.Proofs.Watermark

/-!
# Laws of compactions

After any deeds two compactions leave the store that a single one up to the farther revision leaves,
and together they count as many rows (`Journal.compact_compose`). In particular the second of two
compactions up to one revision does nothing.

This last law holds of any table, whatever has been written into it (`Store.Serves.compact_again`).
A sweep may take the row of the greatest watermark away, but what it leaves of the watermarks does
not come before its target, and not after the watermark that there was (`Table.watermark_between`),
so the second sweep has the target of the first. The engine takes the greatest of any cells, reals
and texts included, and an integer that it finds is above all other integers
(`Cell.reaches_foldl_max`). When it finds none, the watermark cannot be read; then the second
compaction fails, though the first did not (`Store.compact_again_refused`).
-/

namespace RevisionLog

/-! ## The greatest of cells -/

namespace Binary64

theorem ratio_snd_pos (m : Nat) (e : Int) : 0 < (ratio m e).2 := by
  unfold ratio
  split
  · exact Nat.one_pos
  · exact Nat.pow_pos Nat.two_pos

/-- The numerator of a finite number, with its sign. -/
def numerator (negative : Bool) (m : Nat) (e : Int) : Int :=
  if negative then -((ratio m e).1 : Int) else (ratio m e).1

theorem compareInt_finite {negative : Bool} {m : Nat} {e i : Int} :
    (finite negative m e).compareInt i ≠ .lt ↔ i * (ratio m e).2 ≤ numerator negative m e := by
  rw [compareInt, Ne, Int.compare_eq_lt, Int.not_lt]
  rfl

theorem compare_finite {a b : Bool} {m n : Nat} {e f : Int} :
    (finite a m e).compare (finite b n f) = .lt ↔
      numerator a m e * (ratio n f).2 < numerator b n f * (ratio m e).2 := by
  rw [compare, Int.compare_eq_lt]
  cases a <;> cases b <;>
    simp only [numerator, Int.natCast_mul, Int.neg_mul, Bool.false_eq_true, reduceIte]

theorem compareInt_of_le {x : Binary64} {i j : Int} (hle : i ≤ j) (h : x.compareInt j ≠ .lt) :
    x.compareInt i ≠ .lt := by
  cases x with
  | finite negative m e =>
    rw [compareInt_finite] at h ⊢
    exact Int.le_trans (Int.mul_le_mul_of_nonneg_right hle (Int.natCast_nonneg _)) h
  | infinite negative => exact h
  | nan => exact h

theorem compareInt_of_lt {x y : Binary64} {i : Int} (hlt : x.compare y = .lt)
    (h : x.compareInt i ≠ .lt) : y.compareInt i ≠ .lt := by
  cases x with
  | nan => exact absurd rfl h
  | infinite a =>
    -- a number that is not below `i` is infinity, which nothing exceeds
    cases a with
    | true => exact absurd rfl h
    | false =>
      cases y with
      | finite b n f => cases hlt
      | infinite b => cases b <;> cases hlt
      | nan => cases hlt
  | finite a m e =>
    cases y with
    | nan => cases hlt
    | infinite b =>
      cases b with
      | true => cases hlt
      | false => exact fun h => by cases h
    | finite b n f =>
      rw [compareInt_finite] at h ⊢
      rw [compare_finite] at hlt
      have hm : (0 : Int) < (ratio m e).2 := Int.natCast_pos.2 (ratio_snd_pos m e)
      refine Int.le_of_lt (Int.lt_of_mul_lt_mul_right ?_ (Int.le_of_lt hm))
      calc i * (ratio n f).2 * (ratio m e).2
          = i * (ratio m e).2 * (ratio n f).2 := Int.mul_right_comm _ _ _
        _ ≤ numerator a m e * (ratio n f).2 :=
          Int.mul_le_mul_of_nonneg_right h (Int.natCast_nonneg _)
        _ < numerator b n f * (ratio m e).2 := hlt

end Binary64

namespace Cell

/-- The cell does not come before the integer. -/
def Reaches (i : Int) (c : Cell) : Prop := c.order (int i) ≠ .lt

theorem reaches_int {i j : Int} : Reaches i (int j) ↔ i ≤ j := by
  rw [Reaches, order, Ne, Int.compare_eq_lt, Int.not_lt]

/-- What comes after a cell reaches what the cell does. -/
theorem Reaches.of_lt {i : Int} {a c : Cell} (h : Reaches i a) (hlt : a.order c = .lt) :
    Reaches i c := by
  cases c with
  | null => cases a <;> cases hlt
  | text s => exact fun h => by cases h
  | blob b => exact fun h => by cases h
  | int k =>
    rw [reaches_int]
    cases a with
    | null => exact absurd rfl h
    | int j =>
      rw [reaches_int] at h
      rw [order, Int.compare_eq_lt] at hlt
      omega
    | real q =>
      refine Int.not_lt.1 fun hk => ?_
      exact Binary64.compareInt_of_le (Int.le_of_lt hk) h hlt
    | text s => cases hlt
    | blob b => cases hlt
  | real r =>
    cases a with
    | null => exact absurd rfl h
    | int j =>
      rw [reaches_int] at h
      have hj : r.compareInt j ≠ .lt := fun hj => by simp [order, hj] at hlt
      exact Binary64.compareInt_of_le h hj
    | real q => exact Binary64.compareInt_of_lt hlt h
    | text s => cases hlt
    | blob b => cases hlt

theorem Reaches.max {i : Int} {a : Cell} (h : Reaches i a) (c : Cell) : Reaches i (a.max c) := by
  rw [Cell.max]
  split
  · rename_i hlt
    exact h.of_lt (beq_iff_eq.1 hlt)
  · exact h

theorem reaches_max (i : Int) (a : Cell) : Reaches i (a.max (int i)) := by
  rw [Cell.max]
  split
  · exact reaches_int.2 (Int.le_refl i)
  · rename_i hlt
    exact fun h => hlt (by rw [h]; rfl)

theorem Reaches.foldl_max {i : Int} {a : Cell} (h : Reaches i a) (cs : List Cell) :
    Reaches i (cs.foldl .max a) := by
  induction cs generalizing a with
  | nil => exact h
  | cons c cs ih => exact ih (h.max c)

/-- The greatest of cells reaches every integer among them. -/
theorem reaches_foldl_max {i : Int} {cs : List Cell} (h : int i ∈ cs) (a : Cell) :
    Reaches i (cs.foldl .max a) := by
  induction cs generalizing a with
  | nil => cases h
  | cons c cs ih =>
    rw [List.foldl_cons]
    rcases List.mem_cons.1 h with rfl | h
    · exact (reaches_max i a).foldl_max cs
    · exact ih h _

/-- The greatest of cells is one of them, or the one that it begins with. -/
theorem foldl_max_mem (cs : List Cell) (a : Cell) :
    cs.foldl .max a = a ∨ cs.foldl .max a ∈ cs := by
  induction cs generalizing a with
  | nil => exact .inl rfl
  | cons c cs ih =>
    rw [List.foldl_cons]
    rcases ih (a.max c) with h | h
    · rw [h, Cell.max]
      split
      · exact .inr (.head _)
      · exact .inl rfl
    · exact .inr (.tail _ h)

end Cell

/-! ## Tables -/

namespace Table

variable {t t' : Table} {target revision w w' : Int} {r : StoredRow}

/-- What a sweep up to `revision` makes of a table whose watermark can be read. -/
theorem sweep_eq_compacted (t : Table) (revision : Int) :
    t.sweep revision = t.compactRevision.map fun w =>
      (⟨min revision w, t.rows.length - (t.compacted (min revision w)).rows.length⟩,
        t.compacted (min revision w)) := by
  cases hw : t.compactRevision with
  | error e => simp [sweep, hw, Except.map, bind, Except.bind]
  | ok w =>
    simp only [sweep, hw, Except.map, bind, Except.bind, pure, Except.pure, compacted]
    split
    · rfl
    · rw [Nat.sub_self]

theorem isSwept_of_subset (hsub : ∀ p ∈ t'.rows, p ∈ t.rows)
    (h : t'.isSwept target r = true) : t.isSwept target r = true := by
  have hrep : t'.isReplaced target r = true → t.isReplaced target r = true := fun h => by
    obtain ⟨p, hp, hr⟩ := List.any_eq_true.1 h
    exact List.any_eq_true.2 ⟨p, hsub p hp, hr⟩
  simp only [isSwept, Bool.or_eq_true] at h ⊢
  exact h.imp_left (.imp_left hrep)

theorem length_compacted_le (t : Table) (target : Int) :
    (t.compacted target).rows.length ≤ t.rows.length := by
  rw [compacted]
  split
  · exact List.length_filter_le _ _
  · exact Nat.le_refl _

/-- What a sweep has left, another one up to the same target leaves. -/
theorem compacted_self (t : Table) (target : Int) :
    (t.compacted target).compacted target = t.compacted target := by
  rcases Int.lt_or_le 0 target with hpos | hneg
  · refine eq_of_rows ?_ (by simp) (by simp)
    rw [compacted_rows hpos, List.filter_eq_self]
    intro r hr
    rw [Bool.not_eq_true', ← Bool.not_eq_true]
    intro hs
    obtain ⟨-, hkept⟩ := mem_compacted.1 hr
    have := isSwept_of_subset (fun p hp => (mem_compacted.1 hp).1) hs
    rw [hkept hpos] at this
    cases this
  · rw [compacted_of_nonpos hneg, compacted_of_nonpos hneg]

/-- A watermark that can be read is an integer, or there is none. -/
theorem compactRevision_inv (h : t.compactRevision = .ok w) :
    t.watermarkCell = .null ∧ w = 0 ∨ t.watermarkCell = .int w := by
  unfold compactRevision at h
  cases hc : t.watermarkCell with
  | null =>
    rw [hc] at h
    cases h
    exact .inl ⟨rfl, rfl⟩
  | int i =>
    rw [hc] at h
    cases h
    exact .inr rfl
  | real _ | text _ | blob _ =>
    rw [hc] at h
    cases h

/-- The watermark's cell is that of a row of the sentinel, if there is one. -/
theorem watermarkCell_cases (t : Table) : t.watermarkCell = .null ∨
    ∃ r ∈ t.rows, r.isSentinel = true ∧ r.prevRevision = t.watermarkCell := by
  refine (Cell.foldl_max_mem _ _).imp_right fun h => ?_
  obtain ⟨r, hr, hcell⟩ := List.mem_map.1 h
  obtain ⟨hr, hs⟩ := List.mem_filter.1 hr
  exact ⟨r, hr, hs, hcell⟩

theorem le_of_watermarkCell (hw : t.watermarkCell = .int w) (hr : r ∈ t.rows)
    (hs : r.isSentinel = true) {i : Int} (hi : r.prevRevision = .int i) : i ≤ w := by
  have hmem : Cell.int i ∈ (t.rows.filter (·.isSentinel)).map (·.prevRevision) :=
    List.mem_map.2 ⟨r, List.mem_filter.2 ⟨hr, hs⟩, hi⟩
  have := Cell.reaches_foldl_max hmem .null
  rw [watermarkCell] at hw
  rwa [hw, Cell.reaches_int] at this

/-- A watermark that a sweep leaves lies between its target and the watermark before. -/
theorem watermark_between (hpos : 0 < target) (h : t.compactRevision = .ok w)
    (hle : target ≤ w) (h' : (t.compacted target).compactRevision = .ok w') (hw' : 0 < w') :
    target ≤ w' ∧ w' ≤ w := by
  have hcell : t.watermarkCell = .int w := (compactRevision_inv h).resolve_left (by omega)
  have hcell' : (t.compacted target).watermarkCell = .int w' :=
    (compactRevision_inv h').resolve_left (by omega)
  obtain ⟨r, hr, hs, hprev⟩ := (watermarkCell_cases _).resolve_left (by rw [hcell']; simp)
  rw [hcell'] at hprev
  obtain ⟨hr, hkept⟩ := mem_compacted.1 hr
  refine ⟨?_, le_of_watermarkCell hcell hr hs hprev⟩
  have hkept := hkept hpos
  rw [isSwept, hs, hprev, Cell.isBelow_int, Bool.true_and, Bool.or_eq_false_iff,
    decide_eq_false_iff_not, Int.not_lt] at hkept
  exact hkept.2

/-- A sweep that follows one up to the same revision changes nothing. -/
theorem compacted_again (h : t.compactRevision = .ok w)
    (h' : (t.compacted (min revision w)).compactRevision = .ok w') :
    (t.compacted (min revision w)).compacted (min revision w') =
      t.compacted (min revision w) := by
  rcases Int.lt_or_le 0 (min revision w') with hpos' | hneg'
  · rcases Int.lt_or_le 0 (min revision w) with hpos | hneg
    · obtain ⟨hge, hle⟩ := watermark_between hpos h (Int.min_le_right _ _) h' (by omega)
      have htarget : min revision w' = min revision w := by omega
      rw [htarget, compacted_self]
    · rw [compacted_of_nonpos hneg] at h' ⊢
      rw [h, Except.ok.injEq] at h'
      omega
  · exact compacted_of_nonpos hneg'

/-- The rows of the sentinel keep integers, if anything. -/
def KeepsIntegers (t : Table) : Prop :=
  ∀ r ∈ t.rows, r.isSentinel = true → ∃ o, r.prevRevision = .ofInt? o

theorem KeepsIntegers.of_logged (h : ∀ r ∈ t.rows, r.Logged) : t.KeepsIntegers := fun r hr _ => by
  obtain ⟨i, hi⟩ := (h r hr).prevRevision_int
  exact ⟨some i, hi⟩

theorem KeepsIntegers.compacted (h : t.KeepsIntegers) (target : Int) :
    (t.compacted target).KeepsIntegers :=
  fun r hr hs => h r (mem_compacted.1 hr).1 hs

theorem KeepsIntegers.compactRevision_ok (h : t.KeepsIntegers) :
    ∃ w, t.compactRevision = .ok w := by
  rcases t.watermarkCell_cases with hnull | ⟨r, hr, hs, hcell⟩
  · exact ⟨0, by rw [compactRevision, hnull]; rfl⟩
  · obtain ⟨o, ho⟩ := h r hr hs
    exact ⟨o.getD 0, by rw [compactRevision, ← hcell, ho, Cell.readInt_ofInt?]; rfl⟩

end Table

/-! ## Stores -/

namespace Store

/-- The store on a database with another table. -/
def on (s : Store) (t : Table) : Store :=
  { s with connection := s.connection.map fun db => { db with table := some t } }

theorem on_on (s : Store) (t t' : Table) : (s.on t).on t' = s.on t' := by
  unfold on
  cases s.connection <;> rfl

namespace Serves

variable {s : Store} {t t' : Table}

theorem on (h : s.Serves t) (t' : Table) : (s.on t').Serves t' := by
  obtain ⟨db, hc, -⟩ := h.connection
  refine ⟨?_, h.free, h.classify⟩
  rw [table?, Store.on, hc]
  rfl

theorem compactRevision_map (h : s.Serves t) :
    s.compactRevision = t.compactRevision.mapError s.dialect.logError := h.query _

/-- A compaction works on the table as a sweep does, and fails if the watermark cannot be read. -/
theorem compact_eq (h : s.Serves t) (revision : Int) :
    s.compact revision =
      match t.compactRevision with
      | .error e => (.error (s.dialect.logError e), s)
      | .ok w => (.ok ⟨min revision w, t.rows.length - (t.compacted (min revision w)).rows.length⟩,
          s.on (t.compacted (min revision w))) := by
  have hsweep := t.sweep_eq_compacted revision
  have hfree := h.free
  obtain ⟨db, hc, ht⟩ := h.connection
  cases hw : t.compactRevision with
  | error e =>
    rw [hw] at hsweep
    simp only [compact, call, hc, Database.update, Database.query, ht, hsweep, Except.map, bind,
      Except.bind, mapError_error]
    rw [← hc]
  | ok w =>
    rw [hw] at hsweep
    simp [compact, call, hc, Database.update, Database.query, ht, hsweep, Except.map, bind,
      Except.bind, guarded, hfree, Store.on, pure, Except.pure]

/-- A compaction that follows one up to the same revision leaves the store as it is. It answers that
nothing is removed, unless the watermark cannot be read. -/
theorem compact_again (h : s.Serves t) (revision : Int) :
    (s.compact revision).2.compact revision =
      ((s.compact revision).2.compactRevision.map fun w => ⟨min revision w, 0⟩,
        (s.compact revision).2) := by
  rw [h.compact_eq]
  cases hw : t.compactRevision with
  | error e =>
    rw [h.compact_eq, h.compactRevision_map, hw]
    rfl
  | ok w =>
    have h' := h.on (t.compacted (min revision w))
    rw [h'.compact_eq, h'.compactRevision_map]
    cases hw' : (t.compacted (min revision w)).compactRevision with
    | error e => rfl
    | ok w' =>
      simp only [Table.compacted_again hw hw', Nat.sub_self, on_on, mapError_ok, Except.map]

/-- While watermarks are integers, a compaction never fails, and the same one again removes
nothing. -/
theorem compact_integers (h : s.Serves t) (hint : t.KeepsIntegers) (revision : Int) :
    ∃ a target after, s.compact revision = (.ok a, after) ∧
      after.compact revision = (.ok ⟨target, 0⟩, after) := by
  obtain ⟨w, hw⟩ := hint.compactRevision_ok
  obtain ⟨w', hw'⟩ := (hint.compacted (min revision w)).compactRevision_ok
  have hfirst := h.compact_eq revision
  have hsecond := h.compact_again revision
  rw [hw] at hfirst
  rw [hfirst, (h.on _).compactRevision_map, hw'] at hsecond
  exact ⟨_, _, _, hfirst, hsecond⟩

theorem compact_logged (h : s.Serves t) (hlog : ∀ r ∈ t.rows, r.Logged) (revision : Int) :
    s.compact revision = (.ok ⟨min revision t.watermark,
        t.rows.length - (t.compacted (min revision t.watermark)).rows.length⟩,
      s.on (t.compacted (min revision t.watermark))) := by
  rw [h.compact_eq, Table.compactRevision_eq hlog]

/-- A second compaction ends where a single one up to the farther revision ends. -/
theorem compact_after (h : s.Serves t) {past : List Record} (hh : t.Holds past)
    (first revision : Int) :
    (s.on (t.compacted (min first t.watermark))).compact revision =
      (.ok ⟨min revision t.watermark, (t.compacted (min first t.watermark)).rows.length -
          (t.compacted (min (max first revision) t.watermark)).rows.length⟩,
        s.on (t.compacted (min (max first revision) t.watermark))) := by
  -- the first one leaves the watermark, so both are held back alike
  have hw := (hh.watermark_compacted (Int.min_le_right first t.watermark)).1
  have htargets : max (min first t.watermark) (min revision t.watermark) =
    min (max first revision) t.watermark := by omega
  rw [(h.on _).compact_logged (hh.compacted _).logged, hw, hh.compacted_compacted, on_on, htargets]

theorem write (h : s.Serves t) (id : Cell) (row : StoredRow) :
    ∃ t', (s.write id row).2.Serves t' := by
  unfold Store.write
  cases hbind : row.isBindable with
  | false =>
    obtain ⟨said, he⟩ := h.enter_error hbind fun t => (t.write id row).map fun t => ((), t)
    exact ⟨t, by rw [he]; exact h⟩
  | true =>
    rw [enter_eq_update hbind]
    cases hw : t.write id row with
    | error e => exact ⟨t, by rw [h.update_error (by rw [hw]; rfl)]; exact h⟩
    | ok t' =>
      obtain ⟨s', hs, ht', -⟩ := h.update_ok (f := fun t => (t.write id row).map fun t => ((), t))
        (by rw [hw]; rfl)
      exact ⟨t', by rw [hs]; exact ht'⟩

end Serves

/-- The store in memory with rows that were put in past the log. -/
def holding (rows : List StoredRow) : Store :=
  rows.foldl (fun s row => (s.write (.int row.id) row).2) inMemory

theorem exists_serves_holding (rows : List StoredRow) : ∃ t, (holding rows).Serves t := by
  suffices hfold : ∀ (s : Store) (t : Table), s.Serves t →
      ∃ t, (rows.foldl (fun s row => (s.write (.int row.id) row).2) s).Serves t by
    obtain ⟨t, ht, -⟩ := isEmpty_inMemory.serves
    exact hfold _ t ht
  induction rows with
  | nil => exact fun s t ht => ⟨t, ht⟩
  | cons row rows ih =>
    intro s t ht
    obtain ⟨t', ht'⟩ := ht.write (.int row.id) row
    exact ih _ t' ht'

/-- Two watermarks, of which the lower one is no integer, and a record whose predecessor is the row
of the other. -/
def fractionBelow : List StoredRow :=
  [{ id := 1, name := .text sentinelName, deleted := .int 0, prevRevision := .int 5 },
    { id := 2, name := .text sentinelName, deleted := .int 0, prevRevision := .text "4.5" },
    { id := 3, name := .text "a", deleted := .int 0, prevRevision := .int 1 }]

/-- The compaction removes the row of the greater watermark, and the same one again fails. -/
theorem compact_again_refused : (∃ t, (holding fractionBelow).Serves t) ∧
    ((holding fractionBelow).compact 3).1 = .ok ⟨3, 1⟩ ∧
    (((holding fractionBelow).compact 3).2.compact 3).1.isOk = false := by
  refine ⟨exists_serves_holding _, ?_⟩
  rw [holding, inMemory_eq]
  decide +kernel

end Store

/-! ## Journals -/

namespace Journal

/-- After any deeds two compactions do what a single one up to the farther revision does, and count
what it counts; so the same one again does nothing. That it does after any actions. In any table
whatever it changes nothing, and fails only if the watermark cannot be read any more, which integers
always can. -/
theorem compact_compose {s : Store} (hs : s.IsEmpty) (deeds : List Deed) :
    (∀ r₁ r₂ : Int, ∃ a b c mid after,
      (run s deeds).store.compact r₁ = (.ok a, mid) ∧ mid.compact r₂ = (.ok b, after) ∧
      (run s deeds).store.compact (max r₁ r₂) = (.ok c, after) ∧
      a.removed + b.removed = c.removed) ∧
    (∀ r : Int, ∃ a after, (run s deeds).store.compact r = (.ok a, after) ∧
      after.compact r = (.ok ⟨a.target, 0⟩, after)) ∧
    (∀ (actions : List Action) (r : Int), ∃ a target after,
      (s.actAll actions).compact r = (.ok a, after) ∧
      after.compact r = (.ok ⟨target, 0⟩, after)) ∧
    ∀ (any : Store) (t : Table), any.Serves t → ∀ r : Int,
      (any.compact r).2.compact r =
        ((any.compact r).2.compactRevision.map fun w => ⟨min r w, 0⟩, (any.compact r).2) ∧
      (t.KeepsIntegers → ∃ a target after, any.compact r = (.ok a, after) ∧
        after.compact r = (.ok ⟨target, 0⟩, after)) := by
  obtain ⟨t, last, ht, hh, -⟩ := sound_run hs deeds
  have hcompact := ht.compact_logged hh.logged
  refine ⟨fun r₁ r₂ => ?_, fun r => ?_, fun actions r => ?_, fun any t ht r =>
    ⟨ht.compact_again r, fun hint => ht.compact_integers hint r⟩⟩
  · refine ⟨_, _, _, _, _, hcompact r₁, ht.compact_after hh r₁ r₂, hcompact _, ?_⟩
    -- each sweep counts the rows that are gone, and the second one adds none
    have hnear := t.length_compacted_le (min r₁ t.watermark)
    have hfar := Table.length_compacted_le (t.compacted (min r₁ t.watermark)) (min r₂ t.watermark)
    rw [hh.compacted_compacted, show max (min r₁ t.watermark) (min r₂ t.watermark) =
      min (max r₁ r₂) t.watermark by omega] at hfar
    show _ - _ + (_ - _) = _ - _
    omega
  · have hsecond := ht.compact_after hh r r
    rw [Int.max_self, Nat.sub_self] at hsecond
    exact ⟨_, _, hcompact r, hsecond⟩
  · obtain ⟨t, -, ht, hreg, -⟩ := hs.actAll actions
    exact ht.compact_integers (.of_logged hreg.logged) r

/-- A key whose first version two writes follow, the second of them after a sweep has removed the
first one; both branches go on. -/
def branched : List Deed :=
  [.create .sample [1] none, .succeed 1 (.update [2]) none, .succeed 2 (.update [3]) none,
    .setCompactRevision 3, .compact 3, .succeed 1 (.update [4]) none,
    .succeed 5 (.update [5]) none, .succeed 3 .tombstone none, .setCompactRevision 7]

/-- A mark that is inserted by name, and a record whose predecessor is the row of the mark. -/
def markFollowed : List Action :=
  [.insert { name := sentinelName, prevRevision := 5 }, .insert { name := "a", prevRevision := 1 }]

/-- A sweep removes the older version of one branch and the old mark, the next one both versions of
the other. Where the row of the mark is removed, the second sweep has no target. Where the same one
again fails, it changes nothing. -/
theorem compact_compose_branched : Store.inMemory.IsEmpty ∧
    (∃ mid after,
      (run Store.inMemory branched).store.compact 6 = (.ok ⟨6, 2⟩, mid) ∧
      mid.compact 7 = (.ok ⟨7, 2⟩, after) ∧
      (run Store.inMemory branched).store.compact 7 = (.ok ⟨7, 4⟩, after) ∧
      after.compact 7 = (.ok ⟨7, 0⟩, after)) ∧
    (∃ t after, (Store.inMemory.actAll markFollowed).Serves t ∧ t.KeepsIntegers ∧
      (Store.inMemory.actAll markFollowed).compact 3 = (.ok ⟨3, 1⟩, after) ∧
      after.compact 3 = (.ok ⟨0, 0⟩, after)) ∧
    ∃ after, (Store.holding Store.fractionBelow).compact 3 = (.ok ⟨3, 1⟩, after) ∧
      (after.compact 3).2 = after := by
  have hrun : ((run Store.inMemory branched).store.compact 6).1 = .ok ⟨6, 2⟩ ∧
      (((run Store.inMemory branched).store.compact 6).2.compact 7).1 = .ok ⟨7, 2⟩ ∧
      ((run Store.inMemory branched).store.compact 7).1 = .ok ⟨7, 4⟩ ∧
      ((Store.inMemory.actAll markFollowed).compact 3).1 = .ok ⟨3, 1⟩ ∧
      (((Store.inMemory.actAll markFollowed).compact 3).2.compact 3).1 = .ok ⟨0, 0⟩ ∧
      ((Store.holding Store.fractionBelow).compact 3).1 = .ok ⟨3, 1⟩ := by
    rw [Store.holding, Store.inMemory_eq]
    decide +kernel
  obtain ⟨hnear, hfar, hsingle, hmark, hnomark, hfirst⟩ := hrun
  obtain ⟨hcompose, hagain, -, hany⟩ := compact_compose Store.isEmpty_inMemory branched
  refine ⟨Store.isEmpty_inMemory, ?_, ?_, ?_⟩
  · obtain ⟨a, b, c, mid, after, ha, hb, hc, -⟩ := hcompose 6 7
    obtain ⟨d, last, hd, hlast⟩ := hagain 7
    rw [ha] at hnear hfar
    rw [hb] at hfar
    rw [show max (6 : Int) 7 = 7 from rfl, hd] at hc
    rw [hd] at hsingle
    cases hnear
    cases hfar
    cases hsingle
    cases hc
    exact ⟨mid, _, ha, hb, hd, hlast⟩
  · obtain ⟨t, -, ht, hreg, -⟩ := Store.isEmpty_inMemory.actAll markFollowed
    have hint := Table.KeepsIntegers.of_logged hreg.logged
    obtain ⟨a, target, after, ha, hlast⟩ := (hany _ t ht 3).2 hint
    rw [ha] at hmark hnomark
    rw [hlast] at hnomark
    cases hmark
    cases hnomark
    exact ⟨t, after, ht, hint, ha, hlast⟩
  · obtain ⟨t, ht⟩ := Store.exists_serves_holding Store.fractionBelow
    obtain ⟨hstill, -⟩ := hany _ t ht 3
    rcases hpair : (Store.holding Store.fractionBelow).compact 3 with ⟨a, after⟩
    rw [hpair] at hfirst hstill
    cases hfirst
    exact ⟨after, rfl, congrArg Prod.snd hstill⟩

end Journal

end RevisionLog
