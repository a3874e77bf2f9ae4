import RevisionLog.Engine.Fault

/-!
# Rows as they are stored

* `StoredRow` — a row of the table: an id and a cell for every other column.
* `Draft.row`, `StoredRow.watermark` — the rows that the log writes.
* `RawRow` — a row of an answer, where everything but the id may be NULL; `RawRow.toRow` reads NULL
  as nothing.
* `StoredRow.read` — the row of an answer that a stored row gives, or the first column that holds
  another type than asked for.
-/

namespace RevisionLog

/-- A row of the table. -/
structure StoredRow where
  id : Int
  name : Cell := .null
  created : Cell := .null
  deleted : Cell := .null
  createRevision : Cell := .null
  prevRevision : Cell := .null
  lease : Cell := .null
  value : Cell := .null
  oldValue : Cell := .null
deriving DecidableEq, Repr

/-- The row that a draft is stored as. -/
def Draft.row (draft : Draft) (id : Int) : StoredRow where
  id := id
  name := .text draft.name
  created := .flag draft.created
  deleted := .flag draft.deleted
  createRevision := .int draft.createRevision
  prevRevision := .int draft.prevRevision
  lease := .int draft.lease
  value := .blob draft.value
  oldValue := .blob draft.oldValue

/-- A row of an answer. -/
structure RawRow where
  currentRevision : Option Int := none
  compactRevision : Option Int := none
  id : Int
  name : Option String := none
  created : Option Bool := none
  deleted : Option Bool := none
  createRevision : Option Int := none
  prevRevision : Option Int := none
  lease : Option Int := none
  value : Option Bytes := none
  oldValue : Option Bytes := none
deriving DecidableEq, Repr

/-- The record of an answer's row, as it was stored. -/
def RawRow.record (r : RawRow) : Record where
  id := r.id
  name := r.name.getD ""
  created := r.created.getD false
  deleted := r.deleted.getD false
  createRevision := r.createRevision.getD 0
  prevRevision := r.prevRevision.getD 0
  lease := r.lease.getD 0
  value := r.value.getD []
  oldValue := r.oldValue.getD []

/-- The row with NULL read as nothing, and the record resolved. -/
def RawRow.toRow (r : RawRow) : Row where
  currentRevision := r.currentRevision.getD 0
  compactRevision := r.compactRevision.getD 0
  record := r.record.resolved

namespace Cell

/-- A cell read as an integer. -/
def readInt (index : Int) (column : String) : Cell → Except Fault (Option Int)
  | null => .ok none
  | int i => .ok (some i)
  | c => .error (.columnType index column c.type)

/-- A cell read as a flag: any integer but 0 is set. -/
def readFlag (index : Int) (column : String) (c : Cell) : Except Fault (Option Bool) :=
  (c.readInt index column).map fun i => i.map (· != 0)

/-- A cell read as text. -/
def readText (index : Int) (column : String) : Cell → Except Fault (Option String)
  | null => .ok none
  | text s => .ok (some s)
  | c => .error (.columnType index column c.type)

/-- A cell read as bytes. -/
def readBytes (index : Int) (column : String) : Cell → Except Fault (Option Bytes)
  | null => .ok none
  | blob b => .ok (some b)
  | c => .error (.columnType index column c.type)

end Cell

namespace StoredRow

/-- The row that keeps a watermark. -/
def watermark (revision id : Int) : StoredRow where
  id := id
  name := .text sentinelName
  created := .int 0
  deleted := .int 0
  createRevision := .int 0
  prevRevision := .int revision
  lease := .int 0

/-- The row under an id, where each column makes of its cell what it prefers. -/
def preferred (row : StoredRow) (id : Int) : StoredRow where
  id
  name := row.name.preferText
  created := row.created.preferInteger
  deleted := row.deleted.preferInteger
  createRevision := row.createRevision.preferInteger
  prevRevision := row.prevRevision.preferInteger
  lease := row.lease.preferInteger
  value := row.value
  oldValue := row.oldValue

/-- The row keeps a watermark. -/
def isSentinel (r : StoredRow) : Bool := r.name.equals (.text sentinelName)

/-- Two rows that a unique index on name and predecessor does not let stand together. -/
def clashes (r s : StoredRow) : Bool :=
  r.name.equals s.name && r.prevRevision.equals s.prevRevision

/-- The row of an answer whose first two columns are `current` and `compact`. -/
def read (current compact : Cell) (r : StoredRow) : Except Fault RawRow := do
  return {
    currentRevision := ← current.readInt 0 ("(" ++ Templates.revisionSql ++ ")")
    compactRevision := ← compact.readInt 1 ("(" ++ Templates.compactRevisionSql ++ ")")
    id := r.id
    name := ← r.name.readText 3 "thename"
    created := ← r.created.readFlag 4 "created"
    deleted := ← r.deleted.readFlag 5 "deleted"
    createRevision := ← r.createRevision.readInt 6 "create_revision"
    prevRevision := ← r.prevRevision.readInt 7 "prev_revision"
    lease := ← r.lease.readInt 8 "lease"
    value := ← r.value.readBytes 9 "value"
    oldValue := ← r.oldValue.readBytes 10 "old_value" }

end StoredRow

end RevisionLog
