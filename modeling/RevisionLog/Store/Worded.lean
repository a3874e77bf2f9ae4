import RevisionLog.Sql.Execution
import RevisionLog.Store

/-!
# Stores in the words of a dialect

A store does what the statements of the log say in the engine's own flavor. In another flavor the
same statements may say something else, or nothing that the engine reads; then they are run as they
are written. That the statements of a plain flavor say what a store does is not proved: it is tested
only, by what the engine itself answers to them.

* `Flavor.isPlain` — statements in this flavor say what a store does.
* `Operations` — what a log can do; `Operations.plain` by the store itself and `Operations.worded`
  by the statements of its dialect.
-/

namespace RevisionLog

/-- Statements in this flavor say what a store does: markers count from one, and nothing is added
to what the engine's own flavor has. -/
def Flavor.isPlain (f : Flavor) : Bool :=
  let own := Flavor.sqlite
  (match f.placeholder with
    | .positional => true
    | .numbered lead => ["?", ":", "$", "@"].contains lead) &&
  f.limit == own.limit && f.nameFloor == own.nameFloor && f.scalarFrom == own.scalarFrom &&
  f.returning == own.returning

/-- What a log can do on a store, in the words of its dialect. -/
structure Operations where
  insert : Store → Draft → Except LogError Int × Store
  get : Store → Int → Except LogError (Option Record)
  /-- By a pattern and a cursor, with a limit. -/
  listCurrent : Store → String → String → Int → Bool → Except LogError (List Row)
  /-- By a pattern and a cursor, with a limit, as of a revision. -/
  list : Store → String → String → Int → Int → Bool → Except LogError (List Row)
  countCurrent : Store → String → String → Except LogError (Int × Int)
  count : Store → String → String → Int → Except LogError (Int × Int)
  /-- By a pattern, above a revision, with a limit. -/
  after : Store → String → Int → Int → Except LogError (List Row)
  setCompactRevision : Store → Int → Except LogError Unit × Store
  delete : Store → Int → Except LogError Unit × Store
  compact : Store → Int → Except LogError Table.Sweep × Store

/-- The operations of the store itself. -/
def Operations.plain : Operations where
  insert := Store.insert
  get := Store.get
  listCurrent := Store.listCurrent
  list := Store.list
  countCurrent s pattern cursor := (s.countCurrent pattern cursor).map fun (r, n) => (r, (n : Int))
  count s pattern cursor revision :=
    (s.count pattern cursor revision).map fun (r, n) => (r, (n : Int))
  after := Store.after
  setCompactRevision := Store.setCompactRevision
  delete := Store.delete
  compact := Store.compact

/-- The row of an answer. -/
def RawRow.ofOutcome (o : Sql.Outcome) (row : Sql.Cells) : Except Fault RawRow := do
  return {
    currentRevision := ← o.int? row 0
    compactRevision := ← o.int? row 1
    id := ← o.int row 2
    name := ← o.text? row 3
    created := ← o.flag? row 4
    deleted := ← o.flag? row 5
    createRevision := ← o.int? row 6
    prevRevision := ← o.int? row 7
    lease := ← o.int? row 8
    value := ← o.bytes? row 9
    oldValue := ← o.bytes? row 10 }

namespace Store.Worded

open Sql (Cells Outcome)

variable {α : Type}

/-- Uses the connection as a session. -/
def call (s : Store) (f : Sql.Session → Except Fault α × Sql.Session) :
    Except LogError α × Store :=
  match s.connection with
  | .error e => (.error (s.dialect.logError e), s)
  | .ok database =>
    let (r, t) := f { database, lastId := s.lastId, blocked := s.blocked }
    (r.mapError s.dialect.logError, { s with connection := .ok t.database, lastId := t.lastId })

/-- Runs a statement, and reads its answer. -/
def run (sql : String) (parameters : Cells) (read : Outcome → Except Fault α) (t : Sql.Session) :
    Except Fault α × Sql.Session :=
  let (r, t) := t.answer sql parameters
  (r.bind read, t)

/-- Runs a statement that answers nothing, and counts the rows that it changes. -/
def execute (sql : String) (parameters : Cells) : Sql.Session → Except Fault Nat × Sql.Session :=
  run sql parameters fun o => if o.rows.isEmpty then .ok o.changed else .error .unexpectedRows

/-- The rows that a statement answers. -/
def rows (s : Store) (sql : String) (parameters : Cells) : Except LogError (List Row) :=
  (call s (run sql parameters fun o => o.rows.mapM fun row => do
    return (← RawRow.ofOutcome o row).toRow)).1

/-- The revision and the number that a statement answers. -/
def counted (s : Store) (sql : String) (parameters : Cells) : Except LogError (Int × Int) :=
  (call s (run sql parameters fun o => do
    let row ← o.first
    return ((← o.int? row 0).getD 0, ← o.int row 1))).1

/-- The statements of the store. -/
def texts (s : Store) : Templates := s.dialect.templates

/-- As `Store.insert`. -/
def insert (s : Store) (draft : Draft) : Except LogError Int × Store :=
  let parameters := (draft.row 0).cells
  let sql := s.dialect.insertSql
  if s.dialect.insertReturning then
    call s (run sql parameters fun o => do o.int (← o.first) 0)
  else
    match call s (execute sql parameters) with
    | (.ok _, s) => (.ok s.lastId, s)
    | (.error e, s) => (.error e, s)

/-- As `Store.get`. -/
def get (s : Store) (id : Int) : Except LogError (Option Record) :=
  (rows s (texts s).getRevision [.int id]).map fun rs => rs.head?.map (·.record)

/-- As `Store.listCurrent`. -/
def listCurrent (s : Store) (pattern cursor : String) (limit : Int) (withDeleted : Bool) :
    Except LogError (List Row) :=
  rows s ((texts s).limited (texts s).getCurrent limit)
    [.text pattern, .text cursor, .flag withDeleted]

/-- As `Store.list`. -/
def list (s : Store) (pattern cursor : String) (limit revision : Int) (withDeleted : Bool) :
    Except LogError (List Row) :=
  if cursor == "" then
    rows s ((texts s).limited (texts s).listRevisionStart limit)
      [.text pattern, .int revision, .flag withDeleted]
  else
    rows s ((texts s).limited (texts s).getRevisionAfter limit)
      [.text pattern, .text cursor, .int revision, .flag withDeleted]

/-- As `Store.countCurrent`. -/
def countCurrent (s : Store) (pattern cursor : String) : Except LogError (Int × Int) :=
  counted s (texts s).countCurrent [.text pattern, .text cursor, .flag false]

/-- As `Store.count`. -/
def count (s : Store) (pattern cursor : String) (revision : Int) : Except LogError (Int × Int) :=
  counted s (texts s).countRevision [.text pattern, .text cursor, .int revision, .flag false]

/-- As `Store.after`. -/
def after (s : Store) (pattern : String) (revision limit : Int) : Except LogError (List Row) :=
  rows s ((texts s).limited (texts s).after limit) [.text pattern, .int revision]

/-- As `Store.setCompactRevision`. -/
def setCompactRevision (s : Store) (revision : Int) : Except LogError Unit × Store :=
  let (r, s) := call s (execute (texts s).setCompactRevision [.int revision])
  (r.map fun _ => (), s)

/-- As `Store.delete`. -/
def delete (s : Store) (id : Int) : Except LogError Unit × Store :=
  let (r, s) := call s (execute (texts s).delete [.int id])
  (r.map fun _ => (), s)

/-- As `Store.compact`. -/
def compact (s : Store) (revision : Int) : Except LogError Table.Sweep × Store :=
  call s fun t =>
    match t.database.query (·.compactRevision) with
    | .error e => (.error e, t)
    | .ok watermark =>
      let target := min revision watermark
      if 0 < target then
        match execute (texts s).compact (List.replicate 3 (.int target)) t with
        | (.ok removed, t) => (.ok ⟨target, removed⟩, t)
        | (.error e, _) => (.error e, t)
      else (.ok ⟨target, 0⟩, t)

end Store.Worded

/-- The operations by the statements of the store's dialect. -/
def Operations.worded : Operations where
  insert := Store.Worded.insert
  get := Store.Worded.get
  listCurrent := Store.Worded.listCurrent
  list := Store.Worded.list
  countCurrent := Store.Worded.countCurrent
  count := Store.Worded.count
  after := Store.Worded.after
  setCompactRevision := Store.Worded.setCompactRevision
  delete := Store.Worded.delete
  compact := Store.Worded.compact

namespace Store

/-- The operations of a store in the words of its dialect. -/
def operations (s : Store) : Operations :=
  if s.dialect.flavor.isPlain then .plain else .worded

/-- Removes an index, named as it is written behind `DROP INDEX`. -/
def dropIndex (s : Store) (name : String) : Except LogError Unit × Store :=
  Worded.call s (·.batch ("DROP INDEX " ++ name))

end Store

end RevisionLog
