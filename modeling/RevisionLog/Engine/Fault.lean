import RevisionLog.Dialect
import RevisionLog.Engine.Cell
import RevisionLog.Engine.ResultCode

/-!
# Faults of the relational engine

* `Fault` — how a call to the engine fails; `Fault.text` is what the fault says and `Fault.display`
  what the connection makes of it.
* `Fault.classify`, `Fault.errorCode`, `Fault.cause` — what a dialect says of it.
-/

namespace RevisionLog

/-- How a call to the engine fails. -/
inductive Fault
  /-- A result code other than success, with the engine's own message if it left one. -/
  | failure (code : Int) (said : Option String)
  /-- The text of a statement is refused at a byte of it. -/
  | refused (said sql : String) (offset : Nat)
  /-- A query that should answer a row has none. -/
  | noRows
  /-- A statement that should answer nothing has a row. -/
  | unexpectedRows
  /-- A query would write. -/
  | notReadOnly
  /-- More than one statement where one is expected. -/
  | manyStatements
  | columnIndex (index : Int)
  | columnName (name : String)
  | parameterName (name : String)
  /-- A column holds a type that cannot be read as the one asked for. -/
  | columnType (index : Int) (name : String) (found : CellType)
  | parameterCount (got needed : Int)
  /-- A query has changed rows. -/
  | changedRows (count : Int)
  /-- An integer does not fit the type asked for. -/
  | outOfRange (index value : Int)
  /-- The name of a file has a zero byte at a position. -/
  | zeroByte (position : Nat)
  /-- The connection is closed. -/
  | closed
  /-- Anything else that goes wrong on the connection. -/
  | other (said : String)
deriving DecidableEq, Repr

namespace Fault

/-- What the fault says. -/
def text : Fault → String
  | failure code said => said.getD (ResultCode.text code)
  | refused said sql offset => said ++ " in " ++ sql ++ " at offset " ++ toString offset
  | noRows => "Query returned no rows"
  | unexpectedRows => "Execute returned results - did you mean to call query?"
  | notReadOnly => "Query is not read-only"
  | manyStatements => "Multiple statements provided"
  | columnIndex index => "Invalid column index: " ++ toString index
  | columnName name => "Invalid column name: " ++ name
  | parameterName name => "Invalid parameter name: " ++ name
  | columnType index name found =>
    "Invalid column type " ++ found.name ++ " at index: " ++ toString index ++ ", name: " ++ name
  | parameterCount got needed =>
    "Wrong number of parameters passed to query. Got " ++ toString got ++ ", needed " ++
      toString needed
  | changedRows count => "Query changed " ++ toString count ++ " rows"
  | outOfRange index value =>
    "Integer " ++ toString value ++ " out of range at index " ++ toString index
  | zeroByte position => "nul byte found in provided data at position: " ++ toString position
  | closed => "ConnectionClosed"
  | other said => said

/-- What the connection makes of the fault. -/
def display : Fault → String
  | closed => "ConnectionClosed"
  | other said => "Other(\"" ++ said ++ "\")"
  | fault => "Rusqlite(\"" ++ fault.text ++ "\")"

/-- What lies behind the fault, nearest first. -/
def behind : Fault → List String
  | closed => []
  | other said => [said]
  | failure code said => [(failure code said).text, ResultCode.text code]
  | refused said sql offset => [(refused said sql offset).text, ResultCode.text 1]
  | zeroByte position => [(zeroByte position).text, (zeroByte position).text]
  | fault => [fault.text]

/-- The fault as the cause of an error. -/
def cause (fault : Fault) : Cause := ⟨fault.display, fault.behind⟩

/-- A taken place in a unique index, or a taken id, is a lost compare-and-swap. -/
def classify : Fault → ErrorClass
  | failure code _ => if code == 2067 || code == 1555 then .keyExists else .other
  | _ => .other

/-- The result code of a failure; any other fault is its own code. -/
def errorCode : Fault → String
  | failure code _ => toString code
  | fault => fault.display

/-! ## The faults of a log -/

/-- A row of the same name has the same predecessor. -/
def placeTaken : Fault :=
  failure 2067 (some ("UNIQUE constraint failed: " ++ tableName ++ ".name, " ++ tableName ++
    ".prev_revision"))

/-- A row has the id. -/
def idTaken : Fault := failure 1555 (some ("UNIQUE constraint failed: " ++ tableName ++ ".id"))

/-- There is no id left. -/
def full : Fault := failure 13 (some "database or disk is full")

/-- A value or a row is too long for the engine. -/
def tooBig : Fault := failure 18 (some "string or blob too big")

/-- A value is too long for the connection, which refuses it itself. -/
def overlong : Fault := failure 18 none

/-- An id that is not an integer. -/
def mismatch : Fault := failure 20 (some "datatype mismatch")

/-- There is no such table. -/
def noTable : Fault := failure 1 (some ("no such table: " ++ tableName))

/-- There is no such index. -/
def noIndex (name : String) : Fault := failure 1 (some ("no such index: " ++ name))

/-- There is such an index already. -/
def indexExists (name : String) : Fault := failure 1 (some ("index " ++ name ++ " already exists"))

/-- The pattern is too long. -/
def tooComplex : Fault := failure 1 (some "LIKE or GLOB pattern too complex")

/-- The file cannot be opened. -/
def cannotOpen (path : String) : Fault :=
  failure 14 (some ("unable to open database file: " ++ path))

/-- The file holds something else. -/
def notDatabase : Fault := failure 26 (some "file is not a database")

/-- The file is damaged. -/
def malformed : Fault := failure 11 (some "database disk image is malformed")

/-- The file, or one beside it, cannot be used. -/
def outOfReach : Fault := failure 14 (some "unable to open database file")

/-- The file cannot be read. -/
def unreadable : Fault := failure 10 (some "disk I/O error")

/-- Nothing may be written. -/
def readOnly : Fault := failure 8 (some "attempt to write a readonly database")

/-- Another program holds the file. -/
def locked : Fault := failure 5 (some "database is locked")

end Fault

/-- The dialect of SQLite. -/
def Dialect.sqlite : Dialect Fault where
  name := "sqlite"
  flavor := .sqlite
  isolation := .serializable
  classify := Fault.classify
  errorCode := Fault.errorCode
  cause := Fault.cause

end RevisionLog
