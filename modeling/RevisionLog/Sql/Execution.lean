import RevisionLog.Sql.Prepared

/-!
# Running statements

* `Session` — a database with the id of the row that was last put in.
* `Prepared.run` — what a prepared statement answers, and the session after it.
* `Session.answer` — the rows that a text answers for its parameters.
* `Session.batch` — the statements of a text, one after another.
-/

namespace RevisionLog.Sql

/-- A database, and the id of the row that was last put in. -/
structure Session where
  database : Database
  lastId : Int := 0
  /-- Why nothing can be written, if it is so. -/
  blocked : Option Fault := none

/-- What a statement answers. -/
structure Outcome where
  titles : List String := []
  rows : List Cells := []
  /-- How many rows have changed. -/
  changed : Nat := 0

/-- The stored row of some cells. -/
def rowOf (cells : Cells) : StoredRow where
  id := 0
  name := cellAt cells 1
  created := cellAt cells 2
  deleted := cellAt cells 3
  createRevision := cellAt cells 4
  prevRevision := cellAt cells 5
  lease := cellAt cells 6
  value := cellAt cells 7
  oldValue := cellAt cells 8

/-- A change of the log under way. -/
structure Progress where
  table : Table
  lastId : Int
  /-- The rows that are answered, the latest first. -/
  rows : List Cells := []
  changed : Nat := 0

namespace Progress

variable (k : Context)

/-- The context as the change has it now. -/
def context (p : Progress) : Context :=
  { k with database := { k.database with table := some p.table }, lastId := p.lastId }

/-- Counts a row that has changed, and answers columns of it. -/
def answering (p : Progress) (returning : List Term) (row : StoredRow) : Except Fault Progress := do
  let p := { p with changed := p.changed + 1 }
  if returning.isEmpty then return p
  let cells ← Term.evalAll returning ((p.context k).within (cellsOf row))
  return { p with rows := cells :: p.rows }

/-- Replaces the row that another may not stand beside. -/
def amend (p : Progress) (returning : List Term) (changes : List (Nat × Term)) (test : Term)
    (old new : StoredRow) : Except Fault Progress := do
  let k' := (p.context k).within (cellsOf old ++ cellsOf new)
  if (← test.eval k').truth? != some true then return p
  let values ← Term.evalAll (changes.map (·.2)) k'
  let cells := (changes.map (·.1)).zip values |>.foldl (fun cs (i, c) => cs.set i c) (cellsOf old)
  let id ← p.table.idFor (cellAt cells 0)
  let row := (rowOf cells).preferred id
  answering k { p with table := ← p.table.replace old.id row } returning row

/-- The row that a new one may not stand beside. -/
def rival? (p : Progress) (slot : Slot) (new : StoredRow) : Option StoredRow :=
  match slot with
  | .id => p.table.find? new.id
  | .place => p.table.rows.find? (·.clashes new)

/-- Puts a row in. -/
def put (p : Progress) (remedies : List Remedy) (returning : List Term) (cells : Cells) :
    Except Fault Progress := do
  let id ← p.table.idFor (cellAt cells 0)
  let row := (rowOf cells).preferred id
  match p.table.add row with
  | .ok table => answering k { p with table, lastId := id } returning row
  | .error e =>
    let slot : Slot := if e == .idTaken then .id else .place
    match remedies.find? fun r => (r.slot.map (· == slot)).getD true, p.rival? slot row with
    | some r, some old =>
      let p := { p with table := p.table.spend id }
      match r.changes with
      | none => return p
      | some changes => amend k p returning changes r.test old row
    | _, _ => throw e

/-- Removes a row. -/
def remove (p : Progress) (returning : List Term) (row : StoredRow) : Except Fault Progress :=
  answering k { p with table := p.table.delete row.id } returning row

end Progress

/-- Cells for some columns of the log, as a whole row. -/
def spread (columns : List Nat) (cells : Cells) : Cells :=
  (columns.zip cells).foldr (fun (i, c) row => row.set i c) (nullRow logColumns.length)

namespace Prepared

/-- Changes the log. -/
def change (s : Session) (parameters : Cells)
    (f : Context → Progress → Except Fault Progress) : Except Fault (Outcome × Session) := do
  match s.database.table with
  | none => throw .noTable
  | some table =>
    let p ← f { database := s.database, parameters, lastId := s.lastId } { table, lastId := s.lastId }
    return ({ rows := p.rows.reverse, changed := p.changed }, {
      s with
      database := { s.database with table := some p.table }
      lastId := p.lastId })

/-- Runs a statement. -/
def run (p : Prepared) (parameters : Cells) (s : Session) : Except Fault (Outcome × Session) := do
  if p.action.writes then
    if let some e := s.blocked then throw e
  let (o, s) ← match p.action with
    | .nothing => pure ({}, s)
    | .read r => do
      let rows ← r.rows { database := s.database, parameters, lastId := s.lastId }
      pure ({ rows }, s)
    | .insert columns rows remedies returning =>
      change s parameters fun k progress => do
        let new ← rows.rows k
        new.foldlM (fun p cells => p.put k remedies returning (spread columns cells)) progress
    | .delete test returning =>
      change s parameters fun k progress => do
        let gone ← progress.table.rows.filterM fun r => do
          return (← test.eval (k.within (cellsOf r))).truth? == some true
        gone.foldlM (fun p row => p.remove k returning row) progress
    | .dropIndex name => do pure ({}, { s with database := ← s.database.dropIndex name })
    | .dropLog => do pure ({}, { s with database := ← s.database.dropTable })
    | .dropTable name =>
      let others := s.database.otherTables.filter (!sameName · name)
      pure ({}, { s with database := { s.database with otherTables := others } })
  return ({ o with titles := p.titles }, s)

end Prepared

namespace Session

/-- A text as a prepared statement, and the text behind it. -/
def prepare (s : Session) (sql : String) : Except Fault (Prepared × String) :=
  match (do let p ← Parsed.ofText sql; return (← Prepared.of s.database p, p.rest)) with
  | .ok r => .ok r
  | .error e => .error (e.fault sql)

/-- Runs the first statement of a text for its parameters, which are bound to it before they are
counted; a failure changes nothing. -/
def answer (s : Session) (sql : String) (parameters : Cells) : Except Fault Outcome × Session :=
  match s.prepare sql with
  | .error e => (.error e, s)
  | .ok (p, _) =>
    let given := parameters.length
    if let .error e := (parameters.take p.parameters).forM (·.bound) then (.error e, s)
    else if given != p.parameters then
      (.error (.parameterCount (min given (p.parameters + 1)) p.parameters), s)
    else
      match p.run parameters s with
      | .ok (o, s) => (.ok o, s)
      | .error e => (.error e, s)

/-- Runs the statements of a text up to the first that fails. The number bounds the steps. -/
def batchFrom : Nat → String → Session → Except Fault Unit × Session
  | 0, _, s => (.ok (), s)
  | fuel + 1, sql, s =>
    match s.prepare sql with
    | .error e => (.error e, s)
    | .ok (p, rest) =>
      match p.run (List.replicate p.parameters .null) s with
      | .error e => (.error e, s)
      | .ok (_, s) => if rest == "" then (.ok (), s) else batchFrom fuel rest s

/-- Runs the statements of a text up to the first that fails. -/
def batch (s : Session) (sql : String) : Except Fault Unit × Session :=
  batchFrom (sql.length + 1) sql s

end Session

namespace Outcome

/-- A cell of an answered row, with the name of its column. -/
def cell (o : Outcome) (row : Cells) (index : Nat) : Except Fault (String × Cell) :=
  match o.titles[index]?, row[index]? with
  | some title, some c => .ok (title, c)
  | _, _ => .error (.columnIndex index)

/-- A cell of an answered row, read as an integer. -/
def int? (o : Outcome) (row : Cells) (index : Nat) : Except Fault (Option Int) := do
  let (title, c) ← o.cell row index
  c.readInt index title

/-- A cell of an answered row, read as an integer that is there. -/
def int (o : Outcome) (row : Cells) (index : Nat) : Except Fault Int := do
  match ← o.int? row index with
  | some i => return i
  | none => throw (.columnType index ((o.titles[index]?).getD "") .null)

/-- A cell of an answered row, read as a flag. -/
def flag? (o : Outcome) (row : Cells) (index : Nat) : Except Fault (Option Bool) := do
  let (title, c) ← o.cell row index
  c.readFlag index title

/-- A cell of an answered row, read as text. -/
def text? (o : Outcome) (row : Cells) (index : Nat) : Except Fault (Option String) := do
  let (title, c) ← o.cell row index
  c.readText index title

/-- A cell of an answered row, read as bytes. -/
def bytes? (o : Outcome) (row : Cells) (index : Nat) : Except Fault (Option Bytes) := do
  let (title, c) ← o.cell row index
  c.readBytes index title

/-- The first row of an answer that should have one. -/
def first (o : Outcome) : Except Fault Cells :=
  match o.rows with
  | [] => .error .noRows
  | row :: _ => .ok row

end Outcome

end RevisionLog.Sql
