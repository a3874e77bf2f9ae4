import RevisionLog.Schema

/-!
# Rehearsals

A `Rehearsal` is an engine without tables, to try an installation on: it notes the statements that
it is asked to execute and fails on those it is told to.
-/

namespace RevisionLog

/-- What an installation has come to on an engine without tables. -/
structure Rehearsal where
  /-- Whether the table is there; `none` cannot be told. -/
  present : Option Bool
  /-- The statements executed, in order. -/
  executed : List String := []
deriving DecidableEq, Repr

namespace Rehearsal

/-- Notes a statement; one that makes a table makes the table be there. -/
def note (r : Rehearsal) (sql : String) : Rehearsal where
  present := if sql.startsWith "CREATE TABLE" then some true else r.present
  executed := r.executed ++ [sql]

/-- The engine, which fails with `error` on the statements `failing`. -/
def backend (error : LogError) (failing : List String) : SchemaBackend Rehearsal where
  tableExists _ r :=
    match r.present with
    | some present => (.ok present, r)
    | none => (.error error, r)
  execute sql r := if failing.contains sql then (.error error, r) else (.ok (), r.note sql)

/-- Installs once for each number of migrations, and answers what each run came to and what was
executed in it. -/
def runs (error : LogError) (failing : List String) (schema : Schema) :
    List Nat → Rehearsal → List (Except LogError Installed × List Event × List String)
  | [], _ => []
  | n :: ns, r =>
    let (result, events, r) := install (backend error failing) schema n { r with executed := [] }
    (result, events, r.executed) :: runs error failing schema ns r

end Rehearsal

end RevisionLog
