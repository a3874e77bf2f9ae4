import RevisionLog.Command.Compaction
import RevisionLog.Proofs.Opening
import RevisionLog.Proofs.Sweeps
import RevisionLog.Proofs.Watermark
import Mathlib.Logic.Function.Basic

/-!
# Compactions that race

Several commands compact a log at a time, each up to a revision of its own. A command looks at the
watermark, records its revision if that is higher, and sweeps; the steps of different commands
interleave in any order, and a command that is scheduled no more has crashed (`Race`).

What a step can do to the table is said once (`Compaction.Moves`, `Compaction.step_moves`). The
watermark never falls, so a command that has recorded its revision sweeps up to it, and the sweeps
add up to one (`Race.Tracks`). No command fails, and once a command with the highest revision is
through, the watermark and the records are what that command makes of the log alone
(`Race.converges`).
-/

namespace RevisionLog

variable {s : Store} {t t' t₀ : Table} {past : List Record} {revision : Int}

/-! ## Steps -/

namespace Compaction

/-- What a step of a compaction up to `revision` can do to a table. -/
inductive Moves (t : Table) (revision : Int) :
    Compaction → Except Failure Compaction → Table → Prop
  | behind : t.watermark < revision → Moves t revision .begun (.ok .behind) t
  | ahead : revision ≤ t.watermark → Moves t revision .begun (.ok .recorded) t
  | record {id : Int} {t' : Table} : t.append (.watermark revision) = .ok (id, t') →
    Moves t revision .behind (.ok .recorded) t'
  /-- Another command has recorded the revision. -/
  | known : revision ∈ t.marks → Moves t revision .behind (.ok .recorded) t
  | full (e : Failure) : (∀ last, t.ids = .counter last → maxInt ≤ last) →
    Moves t revision .behind (.error e) t
  | sweep (removed : Nat) : Moves t revision .recorded (.ok (.swept removed))
    (t.compacted (min revision t.watermark))
  | done (removed : Nat) : Moves t revision (.swept removed) (.ok (.swept removed)) t

/-- What a step of a compaction does. -/
theorem step_moves (hs : s.Serves t) (h : t.Holds past) (revision : Int) (c : Compaction) :
    ∃ r s' t', c.step revision s = (r, s') ∧ s'.Serves t' ∧ Moves t revision c r t' := by
  cases c with
  | begun =>
    simp only [step, hs.compactRevision_eq h.logged]
    split
    · rename_i hlt
      exact ⟨_, s, t, rfl, hs, .behind hlt⟩
    · rename_i hle
      exact ⟨_, s, t, rfl, hs, .ahead (Int.not_lt.1 hle)⟩
  | behind =>
    rcases hs.setCompactRevision_cases h.regular revision with
      ⟨s', id, t', hset, ht', ha, -, -⟩ | ⟨e, hset, ⟨he, hmem, -⟩ | ⟨he, hfull⟩⟩
    · exact ⟨_, s', t', by simp only [step, hset], ht', .record ha⟩
    · exact ⟨_, s, t, by simp only [step, hset, he, if_true], hs, .known hmem⟩
    · refine ⟨.error (.recording e), s, t,
        by simp only [step, hset, he, Bool.false_eq_true, if_false], hs,
        .full _ fun last' hids' => ?_⟩
      rw [hs.hasRoom_iff hids'] at hfull
      omega
  | recorded =>
    obtain ⟨sweep, s', hs', -, ht', -⟩ := hs.compact_target h.logged revision
    exact ⟨_, s', _, by simp only [step, hs'], ht', .sweep sweep.removed⟩
  | swept removed => exact ⟨_, s, t, rfl, hs, .done removed⟩

/-- A sweep up to a revision that is recorded. -/
theorem step_recorded (hs : s.Serves t) (h : t.Holds past) (hle : revision ≤ t.watermark) :
    ∃ removed s', Compaction.recorded.step revision s = (.ok (.swept removed), s') ∧
      s'.Serves (t.compacted revision) := by
  obtain ⟨r, s', t', hstep, hs', hm⟩ := step_moves hs h revision .recorded
  cases hm with
  | sweep removed =>
    rw [Int.min_eq_left hle] at hs'
    exact ⟨removed, s', hstep, hs'⟩

/-- A command that is alone comes through, if there is an id left for its revision. -/
theorem compactTo_ok (hs : s.Serves t) (h : t.Holds past) {last : Int}
    (hids : t.ids = .counter last) (hroom : last < maxInt) (revision : Int) :
    ∃ s' t', s.compactTo revision = (.ok (), s') ∧ s'.Serves t' ∧
      t'.keyRows = (t.compacted revision).keyRows := by
  obtain ⟨r₁, s₁, t₁, h₁, hs₁, hm₁⟩ := step_moves hs h revision .begun
  cases hm₁ with
  | ahead hle =>
    obtain ⟨removed, s₂, h₂, hs₂⟩ := step_recorded hs₁ h hle
    exact ⟨s₂, _, by simp only [Store.compactTo, steps, h₁, h₂]; rfl, hs₂, rfl⟩
  | behind hlt =>
    obtain ⟨r₂, s₂, t₂, h₂, hs₂, hm₂⟩ := step_moves hs₁ h revision .behind
    have hend : t₂.Holds past → revision ≤ t₂.watermark → t₂.keyRows = t.keyRows →
        r₂ = .ok .recorded → ∃ s' t', s.compactTo revision = (.ok (), s') ∧ s'.Serves t' ∧
          t'.keyRows = (t.compacted revision).keyRows := by
      rintro ht₂ hle hrows rfl
      obtain ⟨removed, s₃, h₃, hs₃⟩ := step_recorded hs₂ ht₂ hle
      exact ⟨s₃, _, by simp only [Store.compactTo, steps, h₁, h₂, h₃]; rfl, hs₃,
        h.keyRows_compacted ht₂ hrows revision⟩
    cases hm₂ with
    | record ha =>
      refine hend (h.aside ha) ?_ (h.keyRows_append ha) rfl
      have := h.watermark_aside ha fun hnil => by
        rw [Table.watermark_of_nil hnil] at hlt
        omega
      omega
    | known hmem => exact hend h (Table.le_watermark hmem) rfl rfl
    | full e hfull =>
      have := hfull last hids
      omega

/-- What a step leaves is a table of the same records, with at most one id more. -/
theorem Moves.holds (h : t.Holds past) {c : Compaction} {r : Except Failure Compaction}
    (hm : Moves t revision c r t') : t'.Holds past := by
  cases hm with
  | record ha => exact h.aside ha
  | sweep => exact h.compacted _
  | _ => exact h

theorem Moves.counter {c : Compaction} {r : Except Failure Compaction}
    (hm : Moves t revision c r t') {last : Int} (hids : t.ids = .counter last) :
    ∃ last', t'.ids = .counter last' ∧ last ≤ last' ∧ last' ≤ last + 1 := by
  cases hm with
  | record ha => exact Table.append_counter hids (fun _ => rfl) ha
  | sweep => exact ⟨last, by simpa using hids, by omega, by omega⟩
  | _ => exact ⟨last, hids, by omega, by omega⟩

end Compaction

/-! ## Races -/

/-- The rows of the log that are none of the sentinel. -/
def Store.keyRows (s : Store) : List StoredRow := (s.table?.map (·.keyRows)).getD []

/-- Commands that compact a log at a time. -/
structure Race (n : Nat) where
  store : Store
  /-- Where each command stands, or why it has failed. -/
  stages : Fin n → Except Failure Compaction

namespace Race

variable {n : Nat} {revisions : Fin n → Int} {race : Race n} {reach start : Int} {spent : Nat}

/-- A command takes its next step, unless it has failed. -/
def take (revisions : Fin n → Int) (race : Race n) (i : Fin n) : Race n :=
  match race.stages i with
  | .error _ => race
  | .ok c =>
    let (r, store) := c.step (revisions i) race.store
    { store, stages := Function.update race.stages i r }

/-- The commands step in the order of the schedule. -/
def run (revisions : Fin n → Int) (s : Store) (schedule : List (Fin n)) : Race n :=
  schedule.foldl (take revisions) { store := s, stages := fun _ => .ok .begun }

/-- What holds once a command has come to a stage. -/
def Passed (t : Table) (reach revision : Int) : Compaction → Prop
  | .begun => True
  | .behind => t.marks = [] → 0 < revision
  | .recorded => revision ≤ t.watermark
  | .swept _ => revision ≤ t.watermark ∧ revision ≤ reach

theorem Passed.mono {c : Compaction} {reach' : Int} (h : Passed t reach revision c)
    (hmarks : t'.marks = [] → t.marks = []) (hwater : t.watermark ≤ t'.watermark)
    (hreach : reach ≤ reach') : Passed t' reach' revision c := by
  cases c with
  | begun => trivial
  | behind => exact fun hnil => h (hmarks hnil)
  | recorded => exact Int.le_trans h hwater
  | swept removed => exact ⟨Int.le_trans h.1 hwater, Int.le_trans h.2 hreach⟩

/-- The race has come from the table `t₀` to the table `t`: it has raised the watermark to one of
the revisions, if at all, and swept the records up to `reach`. -/
structure Tracks (revisions : Fin n → Int) (t₀ : Table) (start : Int) (past : List Record)
    (race : Race n) (t : Table) (reach : Int) (spent : Nat) : Prop where
  serves : race.store.Serves t
  holds : t.Holds past
  ids : ∃ last, t.ids = .counter last ∧ start ≤ last ∧ last ≤ spent
  rows : t.keyRows = (t₀.compacted reach).keyRows
  reached : reach = 0 ∨ ∃ i, reach ≤ revisions i
  raised : t.watermark = t₀.watermark ∨ ∃ i, t.watermark = revisions i
  le : t₀.watermark ≤ t.watermark
  passed : ∀ i c, race.stages i = .ok c → Passed t reach (revisions i) c
  /-- A command fails only for want of an id. -/
  failed : ∀ i e, race.stages i = .error e → ∀ last, t.ids = .counter last → maxInt ≤ last

namespace Tracks

/-- What a move must bring for the race to be tracked on. -/
theorem next (h : Tracks revisions t₀ start past race t reach spent) {i : Fin n} {c : Compaction}
    {r : Except Failure Compaction} {s' : Store} {reach' : Int} (hs' : s'.Serves t')
    (hm : Compaction.Moves t (revisions i) c r t')
    (hrows : t'.keyRows = (t₀.compacted reach').keyRows) (hreach : reach ≤ reach')
    (hreached : reach' = reach ∨ reach' ≤ revisions i) (hmarks : t'.marks = [] → t.marks = [])
    (hwater : t.watermark ≤ t'.watermark)
    (hraised : t'.watermark = t.watermark ∨ t'.watermark = revisions i)
    (hpassed : ∀ c', r = .ok c' → Passed t' reach' (revisions i) c')
    (hfailed : ∀ e, r = .error e → ∀ last, t.ids = .counter last → maxInt ≤ last) :
    Tracks revisions t₀ start past { store := s', stages := Function.update race.stages i r } t'
      reach' (spent + 1) := by
  obtain ⟨last, hids, hstart, hlast⟩ := h.ids
  obtain ⟨last', hids', hle, hle'⟩ := hm.counter hids
  have hfull : (∀ l, t.ids = .counter l → maxInt ≤ l) → ∀ l, t'.ids = .counter l → maxInt ≤ l := by
    intro hfull l hl
    have := hfull last hids
    rw [hids'] at hl
    cases hl
    omega
  refine ⟨hs', hm.holds h.holds, ⟨last', hids', by omega, by omega⟩, hrows, ?_, ?_,
    Int.le_trans h.le hwater, fun j c' hj => ?_, fun j e hj => ?_⟩
  · rcases hreached with he | he
    · exact he ▸ h.reached
    · exact .inr ⟨i, he⟩
  · rcases hraised with he | he
    · exact he ▸ h.raised
    · exact .inr ⟨i, he⟩
  · by_cases hij : j = i
    · subst hij
      simp only [Function.update_self] at hj
      exact hpassed c' hj
    · simp only [Function.update_of_ne hij] at hj
      exact (h.passed j c' hj).mono hmarks hwater hreach
  · by_cases hij : j = i
    · subst hij
      simp only [Function.update_self] at hj
      exact hfull (hfailed e hj)
    · simp only [Function.update_of_ne hij] at hj
      exact hfull (h.failed j e hj)

/-- A move that leaves the table as it is. -/
theorem stay (h : Tracks revisions t₀ start past race t reach spent) {i : Fin n} {c : Compaction}
    {r : Except Failure Compaction} {s' : Store} (hs' : s'.Serves t)
    (hm : Compaction.Moves t (revisions i) c r t)
    (hpassed : ∀ c', r = .ok c' → Passed t reach (revisions i) c')
    (hfailed : ∀ e, r = .error e → ∀ last, t.ids = .counter last → maxInt ≤ last) :
    Tracks revisions t₀ start past { store := s', stages := Function.update race.stages i r } t
      reach (spent + 1) :=
  h.next hs' hm h.rows (Int.le_refl _) (.inl rfl) id (Int.le_refl _) (.inl rfl) hpassed hfailed

/-- The next step of a command. -/
theorem take (h : Tracks revisions t₀ start past race t reach spent) (h₀ : t₀.Holds past)
    (i : Fin n) :
    ∃ t' reach', Tracks revisions t₀ start past (race.take revisions i) t' reach' (spent + 1) := by
  unfold Race.take
  cases hc : race.stages i with
  | error e =>
    obtain ⟨last, hids, hstart, hlast⟩ := h.ids
    exact ⟨t, reach, { h with ids := ⟨last, hids, hstart, by omega⟩ }⟩
  | ok c =>
    obtain ⟨r, s', t', hstep, hs', hm⟩ := Compaction.step_moves h.serves h.holds (revisions i) c
    have hpassed := h.passed i c hc
    simp only [hstep]
    cases hm with
    | behind hlt =>
      refine ⟨t, reach, h.stay hs' (.behind hlt) ?_ (by simp)⟩
      rintro _ ⟨⟩ hnil
      rwa [Table.watermark_of_nil hnil] at hlt
    | ahead hle =>
      refine ⟨t, reach, h.stay hs' (.ahead hle) ?_ (by simp)⟩
      rintro _ ⟨⟩
      exact hle
    | @record id _ ha =>
      have hwater : t'.watermark = max t.watermark (revisions i) :=
        h.holds.watermark_aside ha fun hnil => Int.le_of_lt (hpassed hnil)
      have hmarks := h.holds.marks_aside ha
      refine ⟨t', reach, h.next hs' (.record ha) ?_ (Int.le_refl _) (.inl rfl) ?_ ?_ ?_ ?_
        (by simp)⟩
      · rw [h.holds.keyRows_append ha, h.rows]
      · simp [hmarks]
      · omega
      · omega
      · rintro _ ⟨⟩
        show revisions i ≤ t'.watermark
        omega
    | known hmem =>
      refine ⟨t, reach, h.stay hs' (.known hmem) ?_ (by simp)⟩
      rintro _ ⟨⟩
      exact Table.le_watermark hmem
    | full e hfull =>
      refine ⟨t, reach, h.stay hs' (.full e hfull) ?_ fun _ _ => hfull⟩
      rintro _ ⟨⟩
    | sweep removed =>
      -- the revision is recorded, so it is not past the watermark
      have hle : revisions i ≤ t.watermark := hpassed
      obtain ⟨hwater, hmarks⟩ := h.holds.watermark_compacted hle
      have hm : Compaction.Moves t (revisions i) .recorded (.ok (.swept removed)) _ :=
        .sweep removed
      rw [Int.min_eq_left hle] at hs' hm
      refine ⟨_, max reach (revisions i), h.next hs' hm ?_ (Int.le_max_left ..) ?_ hmarks.1
        (Int.le_of_eq hwater.symm) (.inl hwater) ?_ (by simp)⟩
      · rw [(h₀.compacted reach).keyRows_compacted h.holds h.rows, h₀.compacted_compacted]
      · omega
      · rintro _ ⟨⟩
        exact ⟨hwater ▸ hle, Int.le_max_right ..⟩
    | done removed =>
      refine ⟨t, reach, h.stay hs' (.done removed) ?_ (by simp)⟩
      rintro _ ⟨⟩
      exact hpassed

theorem foldl (h : Tracks revisions t₀ start past race t reach spent) (h₀ : t₀.Holds past)
    (schedule : List (Fin n)) :
    ∃ t' reach', Tracks revisions t₀ start past (schedule.foldl (Race.take revisions) race) t'
      reach' (spent + schedule.length) := by
  induction schedule generalizing race t reach spent with
  | nil => exact ⟨t, reach, h⟩
  | cons i schedule ih =>
    obtain ⟨t', reach', h'⟩ := h.take h₀ i
    have := ih h'
    rwa [Nat.add_right_comm, Nat.add_assoc, ← List.length_cons] at this

end Tracks

theorem Tracks.new (hs : s.Serves t) (h : t.Holds past) {last : Int}
    (hids : t.ids = .counter last) (hlast : last ≤ spent) (revisions : Fin n → Int) :
    Tracks revisions t last past { store := s, stages := fun _ => .ok .begun } t 0 spent where
  serves := hs
  holds := h
  ids := ⟨last, hids, Int.le_refl _, hlast⟩
  rows := by rw [Table.compacted_of_nonpos (Int.le_refl 0)]
  reached := .inl rfl
  raised := .inl rfl
  le := Int.le_refl _
  passed i c hc := by
    cases hc
    trivial
  failed i e he := by cases he

/-- Once a command with the highest revision is through, the race has swept up to it, and the
watermark is at it, or where it was. -/
theorem Tracks.settled (h : Tracks revisions t₀ start past race t reach spent) {m : Fin n}
    (hmax : ∀ i, revisions i ≤ revisions m) {removed : Nat}
    (hm : race.stages m = .ok (.swept removed)) :
    t.watermark = max t₀.watermark (revisions m) ∧
      t.keyRows = (t₀.compacted (revisions m)).keyRows := by
  obtain ⟨hwater, hreach⟩ : revisions m ≤ t.watermark ∧ revisions m ≤ reach := h.passed m _ hm
  have hle := h.le
  constructor
  · rcases h.raised with he | ⟨i, he⟩
    · omega
    · have := hmax i
      omega
  · rw [h.rows]
    rcases h.reached with rfl | ⟨i, hi⟩
    · rw [Table.compacted_of_nonpos (Int.le_refl 0), Table.compacted_of_nonpos hreach]
    · have := hmax i
      rw [show reach = revisions m by omega]

/-- Commands that compact a log at a time do not fail as long as the engine has ids, in whatever
order they step and wherever they stop. Once one with the highest revision is through, the watermark
is the highest revision, unless it was higher before, and the records that are left are those that
this command leaves if it is alone. -/
theorem converges (hs : s.IsEmpty) (deeds : List Deed) {n : Nat} (revisions : Fin n → Int)
    (schedule : List (Fin n)) :
    ((deeds.length + schedule.length : Int) < maxInt →
      (run revisions (Journal.run s deeds).store schedule).store.HasRoom) ∧
    ((run revisions (Journal.run s deeds).store schedule).store.HasRoom →
      (∀ i, ∃ c, (run revisions (Journal.run s deeds).store schedule).stages i = .ok c) ∧
      ∀ m removed, (∀ i, revisions i ≤ revisions m) →
        (run revisions (Journal.run s deeds).store schedule).stages m = .ok (.swept removed) →
          ∃ w alone, (Journal.run s deeds).store.compactRevision = .ok w ∧
            (run revisions (Journal.run s deeds).store schedule).store.compactRevision =
              .ok (max w (revisions m)) ∧
            (Journal.run s deeds).store.compactTo (revisions m) = (.ok (), alone) ∧
            (run revisions (Journal.run s deeds).store schedule).store.keyRows =
              alone.keyRows) := by
  obtain ⟨t₀, last₀, hj, h₀, hids₀, hlast₀⟩ := Journal.sound_run hs deeds
  obtain ⟨t, reach, h⟩ := (Tracks.new hj h₀ hids₀ hlast₀ revisions).foldl h₀ schedule
  change Tracks revisions t₀ last₀ _ (run revisions (Journal.run s deeds).store schedule) t reach _
    at h
  generalize run revisions (Journal.run s deeds).store schedule = race at h ⊢
  obtain ⟨last, hids, hstart, hlast⟩ := h.ids
  refine ⟨fun hspent => (h.serves.hasRoom_iff hids).2 (by omega), fun hroom => ?_⟩
  have hlt := (h.serves.hasRoom_iff hids).1 hroom
  refine ⟨fun i => ?_, fun m removed hmax hm => ?_⟩
  · cases hi : race.stages i with
    | ok c => exact ⟨c, rfl⟩
    | error e =>
      have := h.failed i e hi last hids
      omega
  · obtain ⟨hwater, hrows⟩ := h.settled hmax hm
    obtain ⟨alone, t', halone, ht', hrows'⟩ :=
      Compaction.compactTo_ok hj h₀ hids₀ (by omega) (revisions m)
    refine ⟨t₀.watermark, alone, hj.compactRevision_eq h₀.logged, ?_, halone, ?_⟩
    · rw [h.serves.compactRevision_eq h.holds.logged, hwater]
    · simp only [Store.keyRows, h.serves.table, ht'.table, Option.map_some, Option.getD_some]
      rw [hrows, hrows']

/-- A key that is updated twice. -/
def updatedTwice : List Deed :=
  [.create .sample [1] none, .succeed 1 (.update [2]) none, .succeed 2 (.update [3]) none]

/-- Two commands look at the watermark; the second records its lower revision when the first has
swept. -/
def slower : List (Fin 2) := [0, 1, 0, 0, 1, 1]

/-- The revisions of the two commands. -/
def firstHigher (i : Fin 2) : Int := if i = 0 then 3 else 2

theorem converges_slower : Store.inMemory.IsEmpty ∧ ∃ w alone,
    (Journal.run Store.inMemory updatedTwice).store.compactRevision = .ok w ∧
    (run firstHigher (Journal.run Store.inMemory updatedTwice).store slower).store.compactRevision =
      .ok (max w 3) ∧
    (Journal.run Store.inMemory updatedTwice).store.compactTo 3 = (.ok (), alone) ∧
    (run firstHigher (Journal.run Store.inMemory updatedTwice).store slower).store.keyRows =
      alone.keyRows := by
  have hstage : (run firstHigher (Journal.run Store.inMemory updatedTwice).store slower).stages 0 =
      .ok (.swept 2) := by
    rw [Store.inMemory_eq]
    decide +kernel
  obtain ⟨hroom, hall⟩ := converges Store.isEmpty_inMemory updatedTwice firstHigher slower
  exact ⟨Store.isEmpty_inMemory, (hall (hroom (by decide))).2 0 2 (by decide) hstage⟩

end Race

end RevisionLog
