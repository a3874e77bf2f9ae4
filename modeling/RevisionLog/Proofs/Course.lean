import RevisionLog.Proofs.StoreKeeping

/-!
# Courses of a log

A course is what becomes of a store by steps, in any order: writes of ordinary names, each built
from the latest record of its name at that moment, watermarks, and compactions. `Course.run` takes
the steps; besides the store it notes what was ever written and how far sweeps have gone, neither
of which the store can tell. After any steps the store keeps the history it has noted
(`Course.kept_run`), step by step (`Course.Kept.take`): a draft built from the latest record
continues it (`Course.Kept.draft_latest`).
-/

namespace RevisionLog

/-- A step of a log that is used as it is meant to be. -/
inductive Step
  /-- Writes what follows the latest record of the key, if anything does. -/
  | write (key : Key) (change : Change) (lease : Option Int)
  | setCompactRevision (revision : Int)
  | compact (revision : Int)

/-- A store, and what has become of it. -/
structure Course where
  store : Store
  /-- Every record of a key that was ever written, the newest first. -/
  past : List Record := []
  /-- The revision up to which sweeps have gone. -/
  reach : Int := 0

namespace Course

open History

/-- The course after a step; what fails leaves no trace in it. -/
def take (c : Course) : Step → Course
  | .write key change lease =>
    match change.draft? key.name (c.store.latest key.name) lease with
    | none => c
    | some d =>
      match c.store.insert d with
      | (.ok id, s) => { c with store := s, past := d.stored id :: c.past }
      | (.error _, s) => { c with store := s }
  | .setCompactRevision revision => { c with store := (c.store.setCompactRevision revision).2 }
  | .compact revision =>
    match c.store.compact revision with
    | (.ok sweep, s) =>
      { c with store := s, reach := max c.reach (min sweep.target (newest c.past)) }
    | (.error _, s) => { c with store := s }

/-- The course of a store by steps, one after another. -/
def run (s : Store) (steps : List Step) : Course := steps.foldl take { store := s }

/-- The names that keys have. -/
def Ordinary (n : String) : Prop := n ≠ sentinelName

/-- The store of the course keeps what the course has noted, and has used up to `spent` ids. -/
abbrev Kept (c : Course) (spent : Nat) : Prop := c.store.Keeps Ordinary c.past c.reach spent

theorem not_ordinary : ¬ Ordinary sentinelName := fun h => h rfl

namespace Kept

variable {c : Course} {spent : Nat}

/-- What the latest record of a name in the log is to its history: the last one, or nothing, if a
sweep has removed the tombstone that it ends with. -/
theorem latest_or (h : c.Kept spent) {n : String} (hn : Ordinary n) :
    c.store.latest n = (History.latest c.past n).map Record.resolved ∨
      (c.store.latest n = none ∧ remaining c.reach c.past n = [] ∧
        ∃ l, History.latest c.past n = some l ∧ l.deleted = true ∧ l.id ≤ c.reach) := by
  rcases h.written.remaining_head n with hh | ⟨hh, hl⟩
  · exact .inl (by rw [h.latest_eq hn, hh])
  · exact .inr ⟨by rw [h.latest_eq hn, hh]; rfl, hh, hl⟩

/-- A draft built from the latest record continues the history, and finds its place free. -/
theorem draft_latest (h : c.Kept spent) {key : Key} {change : Change} {lease : Option Int}
    {d : Draft} (hd : change.draft? key.name (c.store.latest key.name) lease = some d) :
    d.name = key.name ∧
      (∀ id, Continues c.reach (History.latest c.past d.name) (d.stored id)) ∧
      ∀ b ∈ remaining c.reach c.past d.name, b.prevRevision ≠ d.prevRevision := by
  rcases h.latest_or key.ordinary with hseen | ⟨hseen, hnil, l, hl, hdel, hle⟩
  · rw [hseen] at hd
    have hname : d.name = key.name := by
      refine Change.draft?_name (fun r hr => ?_) hd
      obtain ⟨l, hl, rfl⟩ := Option.map_eq_some_iff.1 hr
      exact (latest_mem hl).2
    refine ⟨hname, fun id => hname ▸ Change.continues hd c.reach id, fun b hb => ?_⟩
    obtain ⟨hb, hbn, -⟩ := mem_remaining.1 hb
    obtain ⟨l, hl⟩ := exists_latest hb
    rw [hbn, hname] at hl
    have hp : d.prevRevision = l.id := by simp [Change.draft?_prevRevision hd, hl]
    rw [hp]
    exact h.written.prevRevision_ne_latest hl hb
  · rw [hseen] at hd
    have hname : d.name = key.name := Change.draft?_name (by simp) hd
    rw [hname, hl, hnil]
    exact ⟨rfl, Change.continues_swept hdel hle hd, by simp⟩

/-- A step passes the invariant on. -/
theorem take (h : c.Kept spent) (step : Step) : (c.take step).Kept (spent + 1) := by
  cases step with
  | write key change lease =>
    simp only [Course.take]
    cases hd : change.draft? key.name (c.store.latest key.name) lease with
    | none => exact h.mono (Nat.le_succ spent)
    | some d =>
      obtain ⟨hname, hc, -⟩ := h.draft_latest hd
      have hord : Ordinary d.name := hname ▸ key.ordinary
      rcases h.insert hord hc with ⟨id, s', hs, hk⟩ | ⟨e, hs⟩
      · simpa only [hs] using hk
      · simpa only [hs] using h.mono (Nat.le_succ spent)
  | setCompactRevision revision => exact h.setCompactRevision not_ordinary revision
  | compact revision =>
    obtain ⟨sweep, s', hs, hk⟩ := h.compact not_ordinary revision
    simpa only [Course.take, hs] using hk.mono (Nat.le_succ spent)

/-- After steps the store keeps the history that the course has noted. -/
theorem foldl (h : c.Kept spent) (steps : List Step) :
    (steps.foldl Course.take c).Kept (spent + steps.length) := by
  induction steps generalizing c spent with
  | nil => exact h
  | cons step steps ih =>
    have := ih (h.take step)
    rwa [Nat.add_right_comm, Nat.add_assoc, ← List.length_cons] at this

end Kept

/-- After any steps on an empty log the store keeps the history that the course has noted. -/
theorem kept_run {s : Store} (hs : s.IsEmpty) (steps : List Step) :
    (run s steps).Kept steps.length := by
  have h : ({ store := s } : Course).Kept 0 := hs.keeps Ordinary
  simpa only [run, Nat.zero_add] using h.foldl steps

end Course

end RevisionLog
