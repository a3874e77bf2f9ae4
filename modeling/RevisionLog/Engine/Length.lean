import RevisionLog.Engine.StoredRow

/-!
# Lengths of values and rows

The engine takes no text, no byte string and no row of more than a thousand million bytes. A row is
stored as one piece: a header with a mark for each column, which tells the type and the length of
its cell, and behind it the cells. The id is kept elsewhere and has an empty mark only.

* `Cell.bound`, `StoredRow.bound` — binds a cell, or all cells of a row, to a statement.
* `StoredRow.length`, `StoredRow.fits` — the bytes of a row, and whether the engine takes it.

What an index keeps of a row, some of its cells and the id, is not measured. It is shorter than the
row, except that it can be a few bytes longer where the name fills the row up and the id is above
32767. Nor is there any limit of memory or of the disk.
-/

namespace RevisionLog

/-- The most bytes that a text, a byte string or a row can have. -/
def lengthLimit : Nat := 1000000000

/-- From this length on the connection does not pass a value on to the engine. -/
def passLimit : Nat := 2147483647

/-- The bytes of a number that is written with seven bits in each. -/
def varintLength (n : Nat) : Nat := n.log2 / 7 + 1

namespace Cell

/-- The bytes of a text or a byte string; other cells have none. -/
def bytes : Cell → Nat
  | text s => s.utf8ByteSize
  | blob b => b.length
  | _ => 0

/-- The cell is not too long for a statement. -/
def isBindable (c : Cell) : Bool := c.bytes ≤ lengthLimit

/-- Binds a cell to a statement. -/
def bound (c : Cell) : Except Fault Unit :=
  if c.isBindable then .ok ()
  else if c.bytes < passLimit then .error .tooBig
  else .error .overlong

/-- The bytes of an integer in a row. For 0 and 1 the mark is enough. -/
def intLength (i : Int) : Nat :=
  let n := if i < 0 then -(i + 1) else i
  if i == 0 || i == 1 then 0
  else if n ≤ 127 then 1
  else if n ≤ 32767 then 2
  else if n ≤ 8388607 then 3
  else if n ≤ 2147483647 then 4
  else if n ≤ 140737488355327 then 6
  else 8

/-- The bytes of a cell's mark. -/
def markLength : Cell → Nat
  | text s => varintLength (2 * s.utf8ByteSize + 13)
  | blob b => varintLength (2 * b.length + 12)
  | _ => 1

/-- The bytes of a cell in a row, with its mark. -/
def storedLength (c : Cell) : Nat :=
  c.markLength +
    match c with
    | null => 0
    | int i => intLength i
    | real _ => 8
    | text s => s.utf8ByteSize
    | blob b => b.length

/-- The sum of a measure of cells. -/
def total (f : Cell → Nat) (cs : List Cell) : Nat := cs.foldr (fun c n => f c + n) 0

end Cell

namespace StoredRow

/-- The cells of a row but for its id. -/
def cells (r : StoredRow) : List Cell :=
  [r.name, r.created, r.deleted, r.createRevision, r.prevRevision, r.lease, r.value, r.oldValue]

/-- No cell of the row is too long for a statement. -/
def isBindable (r : StoredRow) : Bool := r.cells.all (·.isBindable)

/-- Binds the cells of a row to a statement, one after another. -/
def bound (r : StoredRow) : Except Fault Unit := r.cells.forM (·.bound)

/-- The bytes of a row: one for the length of its header, one for the mark of its id, and its
cells. -/
def length (r : StoredRow) : Nat := 2 + Cell.total (·.storedLength) r.cells

/-- The row is not too long for the table. -/
def fits (r : StoredRow) : Bool := r.length ≤ lengthLimit

end StoredRow

namespace Draft

/-- No value of the draft is too long for a statement. -/
def isBindable (d : Draft) : Bool := (d.row 0).isBindable

/-- The row of the draft is not too long for the table, whatever its id. -/
def fits (d : Draft) : Bool := (d.row 0).fits

end Draft

end RevisionLog
