import RevisionLog.Command.Failure
import RevisionLog.Store

/-!
# Compactions

A compaction up to a revision takes three steps: it looks at the watermark, records the revision if
it is higher, and sweeps. Others may use the log between the steps.

* `Compaction` — where a compaction stands; `Compaction.step` takes the next step.
* `Store.compactTo` — the steps one after another.
-/

namespace RevisionLog

/-- Where a compaction stands. -/
inductive Compaction
  /-- Nothing has been done. -/
  | begun
  /-- The watermark was seen below the revision, which is to be recorded. -/
  | behind
  /-- The watermark is at the revision or above; the sweep comes next. -/
  | recorded
  /-- The sweep has removed so many rows. -/
  | swept (removed : Nat)
deriving DecidableEq, Repr

namespace Compaction

/-- Takes the next step of a compaction up to `revision`. That another has recorded the revision in
the meantime is no failure. -/
def step (revision : Int) (c : Compaction) (s : Store) : Except Failure Compaction × Store :=
  match c with
  | begun =>
    match s.compactRevision with
    | .error e => (.error (.log e), s)
    | .ok watermark => (.ok (if watermark < revision then behind else recorded), s)
  | behind =>
    match s.setCompactRevision revision with
    | (.ok (), s) => (.ok recorded, s)
    | (.error e, s) => (if e.isKeyExists then .ok recorded else .error (.recording e), s)
  | recorded =>
    match s.compact revision with
    | (.ok sweep, s) => (.ok (swept sweep.removed), s)
    | (.error e, s) => (.error (.log e), s)
  | swept removed => (.ok (swept removed), s)

/-- Takes a number of steps, up to the first that fails. -/
def steps (revision : Int) : Nat → Compaction → Store → Except Failure Compaction × Store
  | 0, c, s => (.ok c, s)
  | n + 1, c, s =>
    match c.step revision s with
    | (.ok c, s) => steps revision n c s
    | (.error e, s) => (.error e, s)

end Compaction

/-- Records the watermark and sweeps up to it. -/
def Store.compactTo (s : Store) (revision : Int) : Except Failure Unit × Store :=
  let (r, s) := Compaction.steps revision 3 .begun s
  (r.map fun _ => (), s)

end RevisionLog
