import RevisionLog.Proofs.Course
import RevisionLog.Proofs.Opening
import RevisionLog.Proofs.Sweeps

/-!
# What a compaction leaves of a table

A sweep finds what it removes by the ids that rows name as their predecessors, by tombstones and by
old watermarks. `Table.outlasts` says what is to be left without any of that: the watermarks from
the target on, the records above it, and of each key the newest record up to it, unless that is a
tombstone. After any course a compaction leaves exactly this (`Course.compact_residue`).

* The rows of a course are records and watermarks (`Course.Sweepable.take`), besides what the course
  keeps.
* By the records that are left alone a sweep leaves what `Table.outlasts` says
  (`History.Written.remains_sweep_iff`, `Course.Sweepable.isSwept_eq`).
-/

namespace RevisionLog

namespace Table

/-- A compaction up to `target` is to leave the row: a watermark from the target on, a record above
it, or the newest record of a name up to it, unless that is a tombstone. -/
def outlasts (t : Table) (target : Int) (r : StoredRow) : Bool :=
  if r.name == .text sentinelName then r.prevRevision.int?.any (target ≤ ·)
  else
    target < r.id || (r.deleted == .flag false &&
      t.rows.all fun g => g.name != r.name || target < g.id || g.id ≤ r.id)

theorem outlasts_watermark (t : Table) (target w id : Int) :
    t.outlasts target (.watermark w id) = decide (target ≤ w) := by
  simp [outlasts, Cell.int?]

theorem outlasts_record {t : Table} {target : Int} {b : Record} (hb : b.name ≠ sentinelName) :
    t.outlasts target b.row = true ↔ target < b.id ∨ (b.deleted = false ∧
      ∀ g ∈ t.rows, g.name = .text b.name → g.id ≤ target → g.id ≤ b.id) := by
  have hlive : (Cell.flag b.deleted == .flag false) = !b.deleted := by cases b.deleted <;> rfl
  rw [outlasts, if_neg (by simpa using hb)]
  simp only [Record.row_deleted, hlive, Bool.or_eq_true, Bool.and_eq_true, decide_eq_true_eq,
    Bool.not_eq_true', List.all_eq_true, bne_iff_ne]
  refine or_congr_right (and_congr_right fun _ => forall₂_congr fun g _ => ?_)
  constructor
  · rintro ((h | h) | h) hn hle
    · exact absurd hn h
    · omega
    · exact h
  · intro h
    by_cases hn : g.name = .text b.name
    · by_cases hle : g.id ≤ target
      · exact .inr (h hn hle)
      · exact .inl (.inr (by omega))
    · exact .inl (.inl hn)

/-- A sweep on a table that only the log has written. -/
theorem sweep_eq {t : Table} (h : ∀ r ∈ t.rows, r.Logged) (revision : Int) :
    t.sweep revision =
      .ok (if 0 < min revision t.watermark then t.sweepTo (min revision t.watermark)
        else (⟨min revision t.watermark, 0⟩, t)) := by
  simp only [sweep, compactRevision_eq h, bind, Except.bind, pure, Except.pure]
  split <;> rfl

end Table

/-- A compaction that finds nothing to do leaves the store as it is. -/
theorem Store.Serves.compact_still {s : Store} {t : Table} (h : s.Serves t) {revision : Int}
    {sweep : Table.Sweep} (hs : t.sweep revision = .ok (sweep, t)) :
    s.compact revision = (.ok sweep, s) := by
  obtain ⟨⟨table, _, _, _, _⟩, hc, ht⟩ := h.connection
  have hb := h.free
  obtain ⟨dialect, connection, blocked, lastId⟩ := s
  simp only at hc hb ht
  subst hc hb ht
  simp [compact, call, Database.update, Database.query, guarded, hs, bind, Except.bind, pure,
    Except.pure]

namespace History

variable {reach : Int} {past : List Record}

/-- What a sweep leaves can be told from the records that sweeps before it have left. -/
theorem Written.remains_sweep_iff (h : Written reach past) {r : Record} (hr : r ∈ past)
    (hrem : remains reach past r = true) (target : Int) :
    remains (max reach (min target (newest past))) past r = true ↔ target < r.id ∨
      (r.deleted = false ∧ ∀ g ∈ past, remains reach past g = true → g.name = r.name →
        g.id ≤ target → g.id ≤ r.id) := by
  have hnew := h.le_newest
  constructor
  · intro hleft
    rcases remains_iff.1 hleft with hlt | ⟨hlive, hall⟩
    · have := hnew r hr
      exact .inl (by omega)
    · refine .inr ⟨hlive, fun g hg _ hgn hle => Int.not_lt.1 fun hlt => ?_⟩
      have := hall g hg hgn hlt
      have := hnew g hg
      omega
  · intro hstays
    by_contra hgone
    -- what a sweep removes is up to the target, and if it is live there is a later one up to it
    obtain ⟨hle, hlater⟩ := h.swept_le hr hrem (by simpa using hgone)
    rcases hstays with hlt | ⟨hlive, hall⟩
    · omega
    · obtain ⟨g, hg, hgrem, hgn, hlt, hgt⟩ := hlater hlive
      have := hall g hg hgrem hgn hgt
      omega

end History

namespace Course

open History

/-- The table of a course: it keeps what the course has noted, and its rows are records of it and
watermarks. -/
structure Sweepable (c : Course) (t : Table) : Prop where
  serves : c.store.Serves t
  keeps : t.Keeps Ordinary c.past c.reach
  holds : t.Holds c.past

/-- What a draft names that continues a history. -/
theorem prevRevision_of_continues {past : List Record} {reach : Int} {name : String} {d : Draft}
    {id : Int} (h : Continues reach (History.latest past name) (d.stored id)) :
    d.prevRevision = 0 ∨ ∃ g ∈ past, g.id = d.prevRevision ∧ g.name = name := by
  cases hl : History.latest past name with
  | none =>
    rw [hl] at h
    cases h with
    | first _ hp => exact .inl hp
  | some l =>
    obtain ⟨hlm, hln⟩ := latest_mem hl
    rw [hl] at h
    cases h with
    | next _ he => exact .inr ⟨l, hlm, he.prevRevision.symm, hln⟩
    | again _ _ hp => exact hp.symm.imp And.left fun hp => ⟨l, hlm, hp.symm, hln⟩

namespace Sweepable

variable {c : Course} {t : Table} {spent : Nat}

/-- The table that a course keeps its history in is the one that its store works on. -/
theorem of_kept (hk : c.Kept spent) (hs : c.store.Serves t) (hh : t.Holds c.past) :
    c.Sweepable t := by
  obtain ⟨t', hs', hk', -⟩ := hk
  have ht : t = t' := Option.some.inj (hs.table.symm.trans hs'.table)
  exact ⟨hs, ht ▸ hk', hh⟩

theorem take (h : c.Sweepable t) (hk : c.Kept spent) (step : Step) :
    ∃ t', (c.take step).Sweepable t' := by
  suffices hstep : ∃ t', (c.take step).store.Serves t' ∧ t'.Holds (c.take step).past by
    obtain ⟨t', hs, hh⟩ := hstep
    exact ⟨t', of_kept (hk.take step) hs hh⟩
  cases step with
  | write key change lease =>
    simp only [Course.take]
    cases hd : change.draft? key.name (c.store.latest key.name) lease with
    | none => exact ⟨t, h.serves, h.holds⟩
    | some d =>
      obtain ⟨hname, hc, -⟩ := hk.draft_latest hd
      rcases h.serves.insert_outcome d with ⟨id, s', t', ha, hs, ht'⟩ | ⟨e, he⟩
      · simp only [hs]
        exact ⟨t', ht', h.holds.push ha (hname ▸ key.ordinary) (prevRevision_of_continues (hc id))⟩
      · simp only [he]
        exact ⟨t, h.serves, h.holds⟩
  | setCompactRevision revision =>
    rcases h.serves.setCompactRevision_cases h.holds.regular revision with
      ⟨s', id, t', hset, ht', ha, -⟩ | ⟨e, hset, -⟩
    · simp only [Course.take, hset]
      exact ⟨t', ht', h.holds.aside ha⟩
    · simp only [Course.take, hset]
      exact ⟨t, h.serves, h.holds⟩
  | compact revision =>
    obtain ⟨sweep, s', hs, -, ht', -⟩ := h.serves.compact_target h.holds.logged revision
    simp only [Course.take, hs]
    exact ⟨_, ht', h.holds.compacted _⟩

theorem foldl (h : c.Sweepable t) (hk : c.Kept spent) (steps : List Step) :
    ∃ t', (steps.foldl Course.take c).Sweepable t' := by
  induction steps generalizing c t spent with
  | nil => exact ⟨t, h⟩
  | cons step steps ih =>
    obtain ⟨t', h'⟩ := h.take hk step
    exact ih h' (hk.take step)

/-- A sweep leaves of the table what is to be left. -/
theorem isSwept_eq (h : c.Sweepable t) (target : Int) {r : StoredRow} (hr : r ∈ t.rows) :
    (!t.isSwept target r) = t.outlasts target r := by
  rcases h.holds.rows r hr with ⟨b, hb, rfl⟩ | ⟨w, hw, -⟩
  · have hbn := h.holds.built.ordinary b hb
    have hrem : remains c.reach c.past b = true := by
      by_contra hgone
      exact h.keeps.id_ne hb (by simpa using hgone) _ hr rfl
    -- the rows of a key are the records of it that are left
    have hrows : (∀ g ∈ t.rows, g.name = .text b.name → g.id ≤ target → g.id ≤ b.id) ↔
        ∀ g ∈ c.past, remains c.reach c.past g = true → g.name = b.name →
          g.id ≤ target → g.id ≤ b.id := by
      constructor
      · intro hall g hg hgr hgn hle
        exact hall g.row (h.keeps.row_mem hg hgr) (by simp [hgn]) hle
      · intro hall g hg hgn hle
        obtain ⟨a, ha, rfl⟩ := (h.keeps.mem_rows hbn).1 ⟨hg, hgn⟩
        obtain ⟨hap, han, har⟩ := mem_remaining.1 ha
        exact hall a hap har han hle
    rw [Bool.eq_iff_iff, Table.outlasts_record hbn, hrows,
      ← h.keeps.written.remains_sweep_iff hb hrem target, Bool.not_eq_true',
      ← Bool.not_eq_true, h.keeps.isSwept_iff not_ordinary hb hrem, Bool.not_eq_false]
  · rw [← hw] at hr ⊢
    rw [h.holds.isSwept_watermark hr, Table.outlasts_watermark, ← decide_not,
      decide_eq_decide, Int.not_lt]

theorem sweepTo_eq (h : c.Sweepable t) (target : Int) :
    t.sweepTo target =
      (⟨target, t.rows.countP (!t.outlasts target ·)⟩, t.retain (t.outlasts target)) := by
  have hkept : (t.sweepTo target).2 = t.retain (t.outlasts target) :=
    Table.eq_of_rows (List.filter_congr fun _ hr => h.isSwept_eq target hr) rfl rfl
  have hcount : t.rows.length - (t.rows.filter (t.outlasts target)).length =
      t.rows.countP (!t.outlasts target ·) := by
    rw [← List.countP_eq_length_filter,
      List.length_eq_countP_add_countP (t.outlasts target) (l := t.rows), Nat.add_sub_cancel_left]
    exact List.countP_congr fun r _ => by simp
  refine Prod.ext ?_ hkept
  rw [← hcount]
  exact congrArg (fun kept : Table => (⟨target, t.rows.length - kept.rows.length⟩ : Table.Sweep))
    hkept

end Sweepable

theorem sweepable_run {s : Store} (hs : s.IsEmpty) (steps : List Step) :
    ∃ t, (run s steps).Sweepable t := by
  obtain ⟨t, ht, hrows, hids, hu⟩ := hs.serves
  have hk : ({ store := s } : Course).Kept 0 := hs.keeps Ordinary
  exact (Sweepable.of_kept hk ht (.empty hrows hids hu)).foldl hk steps

/-- After any course a compaction goes up to the watermark at most. With nothing to go up to it
leaves the store as it is. Otherwise the table has exactly the rows left that are to be left, as
they were, and the others are counted. -/
theorem compact_residue {s : Store} (hs : s.IsEmpty) (steps : List Step) (revision : Int) :
    ∃ t w, (run s steps).store.table? = some t ∧ (run s steps).store.compactRevision = .ok w ∧
      (min revision w ≤ 0 → (run s steps).store.compact revision =
        (.ok ⟨min revision w, 0⟩, (run s steps).store)) ∧
      (0 < min revision w → ∃ after, (run s steps).store.compact revision =
          (.ok ⟨min revision w, t.rows.countP (!t.outlasts (min revision w) ·)⟩, after) ∧
        after.table? = some (t.retain (t.outlasts (min revision w)))) := by
  obtain ⟨t, h⟩ := sweepable_run hs steps
  have hsweep := Table.sweep_eq h.holds.logged revision
  refine ⟨t, t.watermark, h.serves.table, h.serves.compactRevision_eq h.holds.logged,
    fun hle => ?_, fun hpos => ?_⟩
  · rw [if_neg (by omega)] at hsweep
    exact h.serves.compact_still hsweep
  · rw [if_pos hpos, h.sweepTo_eq] at hsweep
    obtain ⟨after, hafter, ht', -⟩ := h.serves.compact_ok hsweep
    exact ⟨after, hafter, ht'.table⟩

/-- Another key. -/
def otherKey : Key := ⟨"other", by decide⟩

/-- A key that is updated twice, and another that is buried and begun anew, with two watermarks in
between. -/
def overwritten : List Step :=
  [.write .sample (.put [1]) none, .write otherKey (.put [2]) none, .setCompactRevision 3,
    .write .sample (.put [3]) none, .write otherKey .remove none, .setCompactRevision 5,
    .write .sample (.put [4]) none, .write otherKey (.put [5]) none]

theorem compact_residue_overwritten : Store.inMemory.IsEmpty ∧ ∃ t after,
    (run Store.inMemory overwritten).store.table? = some t ∧
    (run Store.inMemory overwritten).store.compact 9 = (.ok ⟨5, 4⟩, after) ∧
    after.table? = some (t.retain (t.outlasts 5)) ∧
    (t.retain (t.outlasts 5)).rows.map (·.id) = [4, 6, 7, 8] := by
  have hrun : (run Store.inMemory overwritten).store.compactRevision = .ok 5 ∧
      ((run Store.inMemory overwritten).store.table?.map fun t =>
        (t.rows.countP (!t.outlasts 5 ·), (t.retain (t.outlasts 5)).rows.map (·.id))) =
      some (4, [4, 6, 7, 8]) := by
    rw [Store.inMemory_eq]
    decide +kernel
  obtain ⟨hwatermark, hrows⟩ := hrun
  obtain ⟨t, w, ht, hw, -, hsweep⟩ := compact_residue Store.isEmpty_inMemory overwritten 9
  rw [hw, Except.ok.injEq] at hwatermark
  subst hwatermark
  obtain ⟨after, hafter, ht'⟩ := hsweep (by decide)
  rw [ht, Option.map_some, Option.some.injEq, Prod.mk.injEq] at hrows
  exact ⟨Store.isEmpty_inMemory, t, after, ht, hrows.1 ▸ hafter, ht', hrows.2⟩

end Course

end RevisionLog
