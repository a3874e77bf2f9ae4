import RevisionLog.Decimal.Arithmetic
import RevisionLog.Decimal.Numeral
import RevisionLog.Text.Utf8

/-!
# Cells of a table

A cell of the relational engine holds NULL, a number, text or bytes, whatever its column is declared
to hold; a column only turns what it can into the type it prefers.

* `Cell.order` — NULL, then numbers, then text by its bytes, then bytes.
* `Cell.isAbove`, `Cell.isBelow`, `Cell.equals`, `Cell.differs` — the comparisons of a query; with
  NULL none of them holds.
* `Cell.preferInteger`, `Cell.preferText` — what a column makes of a cell put into it.
-/

namespace RevisionLog

/-- The types of cells. -/
inductive CellType
  | null
  | integer
  | real
  | text
  | blob
deriving DecidableEq, Repr

/-- The type's name. -/
def CellType.name : CellType → String
  | null => "Null"
  | integer => "Integer"
  | real => "Real"
  | text => "Text"
  | blob => "Blob"

/-- What one column of one row holds. -/
inductive Cell
  | null
  | int (i : Int)
  | real (r : Binary64)
  | text (s : String)
  | blob (b : Bytes)
deriving DecidableEq, Repr

namespace Cell

/-- A flag as a cell: 1 or 0. -/
def flag (b : Bool) : Cell := int (if b then 1 else 0)

/-- The type of a cell. -/
def type : Cell → CellType
  | null => .null
  | int _ => .integer
  | real _ => .real
  | text _ => .text
  | blob _ => .blob

/-- The place of a cell's kind in the order of all cells. -/
def kindRank : Cell → Nat
  | null => 0
  | int _ | real _ => 1
  | text _ => 2
  | blob _ => 3

/-- The order of cells. Text is ordered by code points, which is the order of its UTF-8 bytes. -/
def order (a b : Cell) : Ordering :=
  match a, b with
  | int i, int j => compare i j
  | int i, real r => (r.compareInt i).swap
  | real r, int i => r.compareInt i
  | real r, real q => r.compare q
  | text s, text t => compare s t
  | blob x, blob y => compareOfLessAndEq x y
  | a, b => compare a.kindRank b.kindRank

/-- Neither cell is NULL. -/
def bothKnown (a b : Cell) : Bool := a != null && b != null

/-- The test `a > b` of a query. -/
def isAbove (a b : Cell) : Bool := bothKnown a b && a.order b == .gt

/-- The test `a < b` of a query. -/
def isBelow (a b : Cell) : Bool := bothKnown a b && a.order b == .lt

/-- The test `a = b` of a query. -/
def equals (a b : Cell) : Bool := bothKnown a b && a.order b == .eq

/-- The test `a != b` of a query. -/
def differs (a b : Cell) : Bool := bothKnown a b && a.order b != .eq

/-- The later of two cells in the order. -/
def max (a b : Cell) : Cell := if a.order b == .lt then b else a

/-! ## Numeric text -/

/-- White space around a number. -/
def isPad (c : Char) : Bool := c == ' ' || ('\t' ≤ c && c ≤ '\r')

/-- A whole number that a real is, if it is one and lies inside the integers, ends excluded. -/
def realInt? (r : Binary64) : Option Int :=
  match r.toInt? with
  | some i => if minInt < i && i < maxInt then some i else none
  | none => none

/-- Once the digits of a number are this many as an integer, further ones do not count. -/
def digitLimit : Nat := 922337203685477579

/-- A decimal without the digits that come after an integer of 64 bits is full. -/
def cutDigits : Nat → Nat → Int → Nat × Int
  | 0, d, e => (d, e)
  | n + 1, d, e => if digitLimit ≤ d / 10 then cutDigits n (d / 10) (e + 1) else (d, e)

/-- The number that a decimal reads as. -/
def realOf (negative : Bool) (d : Nat) (e : Int) : Binary64 :=
  let (d, e) := cutDigits d.log2 d e
  .ofDecimal negative d e

/-- A number without white space around it, as a cell. -/
def readNumber (cs : List Char) : Option Cell :=
  let (negative, digits) := Digits.takeSign cs
  match (Digits.whole? digits).map (Digits.signed negative), Binary64.decimal? digits with
  | some i, some (d, e) =>
    some (if minInt ≤ i && i ≤ maxInt then int i else real (realOf negative d e))
  | none, some (d, e) =>
    let r := realOf negative d e
    some (((realInt? r).map int).getD (real r))
  | _, none => none

/-- What an INTEGER column makes of a cell: text that reads as a number becomes it, and a number
without a fraction an integer. -/
def preferInteger : Cell → Cell
  | text s =>
    let cs := ((s.toList.dropWhile isPad).reverse.dropWhile isPad).reverse
    (readNumber cs).getD (text s)
  | real r => ((realInt? r).map int).getD (real r)
  | c => c

/-! ## Text of numbers -/

/-- The number of digits that a real is written with. -/
def realDigits : Nat := 15

/-- An exponent with its sign and at least two digits. -/
def exponentText (e : Int) : List Char :=
  let digits := Nat.toDigits 10 e.natAbs
  'e' :: (if e < 0 then '-' else '+') :: Binary64.zeros (2 - digits.length) ++ digits

/-- A real as text: up to fifteen digits, always a point, and an exponent where the first digit
stands below the fourth place after the point or above the fifteenth before it. -/
def realText : Binary64 → String
  | .nan => "NaN"
  | .infinite negative => if negative then "-Inf" else "Inf"
  | .finite negative m e =>
    if m == 0 then "0.0"
    else
      let (d, k) := Binary64.rounded realDigits m e
      let (d, k) := Binary64.stripped realDigits d k
      let digits := Nat.toDigits 10 d
      let power : Int := digits.length + k - 1
      let body :=
        if -4 ≤ power && power < realDigits then
          Binary64.positional digits (power + 1) ['.', '0']
        else
          let fraction := if digits.length ≤ 1 then ['0'] else digits.drop 1
          digits.take 1 ++ '.' :: fraction ++ exponentText power
      String.ofList (if negative then '-' :: body else body)

/-- What a text column makes of a cell: a number becomes its text. -/
def preferText : Cell → Cell
  | int i => text (toString i)
  | real r => text (realText r)
  | c => c

end Cell

end RevisionLog
