import RevisionLog.Engine.Pattern
import RevisionLog.Engine.Table

/-!
# Queries and sweeps of the table

* `Table.currentRevision`, `Table.compactRevision` — the highest id, and the compaction watermark.
* `Selection` — which rows a list looks at; `Table.list` answers the newest row of each selected
  name and `Table.count` their number.
* `Table.after` — the rows above a revision.
* `Table.sweep` — removes what no snapshot from the watermark on can see.

Two limits of the engine on reads are left out. It refuses a pattern or a cursor of more than
1,000,000,000 bytes, whatever the table; and it cannot sort a row of an answer that is longer than
that, as one is whose row in the table is shorter by less than the few bytes of the two revisions
beside it. The limit on the length of a pattern that is compared with names is kept
(`Pattern.isTooComplex`), and so is that on the rows themselves (`StoredRow.fits`).
-/

namespace RevisionLog

namespace Table

/-- The highest id as a cell. -/
def currentCell (t : Table) : Cell :=
  match t.maxId? with
  | none => .null
  | some id => .int id

/-- The highest id, or 0 without rows. -/
def currentRevision (t : Table) : Int := t.maxId?.getD 0

/-- The greatest watermark as a cell. -/
def watermarkCell (t : Table) : Cell :=
  ((t.rows.filter (·.isSentinel)).map (·.prevRevision)).foldl .max .null

/-- The compaction watermark, or 0 without one. -/
def compactRevision (t : Table) : Except Fault Int :=
  (t.watermarkCell.readInt 0 "prev_revision").map (·.getD 0)

/-- The record with an id. -/
def get (t : Table) (id : Int) : Except Fault (Option Record) :=
  match t.find? id with
  | none => .ok none
  | some r => (r.read (.int 0) (.int 0)).map fun raw => some raw.toRow.record

end Table

/-- The rows that a list looks at. -/
structure Selection where
  /-- Names match this pattern. -/
  pattern : String
  /-- Names come after this cell. -/
  floor : Option Cell := none
  /-- Ids go up to this revision. -/
  ceiling : Option Int := none
deriving DecidableEq, Repr

namespace Selection

/-- The name of the row comes after the floor. -/
def isPastFloor (q : Selection) (r : StoredRow) : Bool :=
  match q.floor with
  | none => true
  | some floor => r.name.isAbove floor

/-- The id of the row is not above the ceiling. -/
def isBelowCeiling (q : Selection) (r : StoredRow) : Bool :=
  match q.ceiling with
  | none => true
  | some ceiling => r.id ≤ ceiling

/-- The row is selected. -/
def admits (q : Selection) (r : StoredRow) : Bool :=
  r.name.isLike q.pattern && q.isPastFloor r && q.isBelowCeiling r

end Selection

/-- The rows that have the highest id of their name. -/
def newestPerName : List StoredRow → List StoredRow
  | [] => []
  | r :: rs => if rs.any (·.name == r.name) then newestPerName rs else r :: newestPerName rs

/-- The first `limit` entries, or all when the limit is 0 or less. -/
def capped {α : Type} (limit : Int) (xs : List α) : List α :=
  if limit ≤ 0 then xs else xs.take limit.toNat

namespace Table

/-- The rows whose name a list compares with its pattern: an index by name leads past the floor,
and without one the ids lead up to the ceiling. -/
def compared (t : Table) (q : Selection) : List StoredRow :=
  t.rows.filter (if t.hasNameOrder then q.isPastFloor else q.isBelowCeiling)

/-- The newest selected row of each name, by ascending name; tombstones only if asked for. -/
def select (t : Table) (q : Selection) (withDeleted : Bool) : List StoredRow :=
  ((newestPerName (t.rows.filter q.admits)).filter fun r =>
      r.deleted.equals (.int 0) || r.deleted.equals (.flag withDeleted)).mergeSort
    fun r s => r.name.order s.name != .gt

/-- Rows as an answer, with the two revisions of the table. -/
def answer (t : Table) (rows : List StoredRow) : Except Fault (List Row) :=
  rows.mapM fun r => (r.read t.currentCell t.watermarkCell).map (·.toRow)

/-- The newest selected row of each name, up to a limit. -/
def list (t : Table) (q : Selection) (limit : Int) (withDeleted : Bool) :
    Except Fault (List Row) :=
  if Pattern.isTooComplex q.pattern && !(t.compared q).isEmpty then .error .tooComplex
  else t.answer (capped limit (t.select q withDeleted))

/-- The current revision and the number of selected names that are not deleted. -/
def count (t : Table) (q : Selection) : Except Fault (Int × Nat) :=
  if Pattern.isTooComplex q.pattern && !(t.compared q).isEmpty then .error .tooComplex
  else .ok (t.currentRevision, (t.select q false).length)

/-- The rows above a revision whose names match a pattern, up to a limit. -/
def after (t : Table) (pattern : String) (revision limit : Int) : Except Fault (List Row) :=
  let above := t.rows.filter fun r => revision < r.id
  if Pattern.isTooComplex pattern && !above.isEmpty then .error .tooComplex
  else t.answer (capped limit (above.filter fun r => r.name.isLike pattern))

/-! ## Sweeps -/

/-- The row is the predecessor of a key's row up to `target`. -/
def isReplaced (t : Table) (target : Int) (r : StoredRow) : Bool :=
  t.rows.any fun p =>
    p.name.differs (.text sentinelName) && p.prevRevision.differs (.int 0) && p.id ≤ target &&
      p.prevRevision.equals (.int r.id)

/-- A sweep up to `target` removes the row: it is replaced, or a tombstone, or a watermark below
`target`. -/
def isSwept (t : Table) (target : Int) (r : StoredRow) : Bool :=
  t.isReplaced target r || (r.deleted.differs (.int 0) && r.id ≤ target) ||
    (r.isSentinel && r.prevRevision.isBelow (.int target))

/-- What a compaction has done. -/
structure Sweep where
  /-- The revision swept up to: the one asked for, but not past the watermark. -/
  target : Int
  /-- How many rows are gone. -/
  removed : Nat
deriving DecidableEq, Repr

/-- Removes what is superseded up to `target`. -/
def sweepTo (t : Table) (target : Int) : Sweep × Table :=
  let kept := t.retain fun r => !t.isSwept target r
  (⟨target, t.rows.length - kept.rows.length⟩, kept)

/-- Removes what is superseded up to `revision`, but not past the watermark. -/
def sweep (t : Table) (revision : Int) : Except Fault (Sweep × Table) := do
  let target := min revision (← t.compactRevision)
  if 0 < target then return t.sweepTo target else return (⟨target, 0⟩, t)

/-- Removes the row with an id. -/
def delete (t : Table) (id : Int) : Table := t.retain fun r => r.id != id

end Table

end RevisionLog
