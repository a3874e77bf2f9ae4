import RevisionLog.Engine.Cell

/-!
# Values of expressions

* `Affinity` — what a cell is preferably, by the type of its column; `Affinity.apply` makes it so.
* `Collation` — which texts count as equal, and how they are ordered.
* `Comparison` — how two cells are compared.
* `Cell.number`, `Cell.integer`, `Cell.truth?`, `Cell.shown?` — a cell as a number, an integer, a
  truth value and text.
* `Arithmetic` — operators between two cells.
-/

namespace RevisionLog

namespace Sql

/-! ## Affinities -/

/-- What a cell is preferably. -/
inductive Affinity
  | blob
  | text
  | numeric
  | integer
  | real
deriving DecidableEq, Repr

/-- Some run of characters in `cs` is `part`. -/
def occurs (part cs : List Char) : Bool :=
  match cs with
  | [] => part.isEmpty
  | c :: rest => part.isPrefixOf (c :: rest) || occurs part rest

namespace Affinity

/-- The affinity of a type, by its words. -/
def ofType (type : String) : Affinity :=
  let cs := type.toList.map Char.toUpper
  let has (part : String) : Bool := occurs part.toList cs
  if has "INT" then integer
  else if has "CHAR" || has "CLOB" || has "TEXT" then text
  else if has "BLOB" then blob
  else if has "REAL" || has "FLOA" || has "DOUB" then real
  else numeric

/-- The affinity is one to numbers. -/
def isNumeric : Affinity → Bool
  | numeric | integer | real => true
  | _ => false

end Affinity

/-! ## Collations -/

/-- Which texts count as equal. -/
inductive Collation
  /-- Only the same. -/
  | binary
  /-- Those that differ in the case of ASCII letters. -/
  | noCase
  /-- Those that differ in spaces at their end. -/
  | trimmed
deriving DecidableEq, Repr

namespace Collation

/-- The collation of a name. -/
def ofName? (name : String) : Option Collation :=
  match name.map Char.toUpper with
  | "BINARY" => some binary
  | "NOCASE" => some noCase
  | "RTRIM" => some trimmed
  | _ => none

/-- The text that stands for all that count as equal to it. -/
def key (c : Collation) (s : String) : String :=
  match c with
  | binary => s
  | noCase => s.map Char.toLower
  | trimmed => String.ofList ((s.toList.reverse.dropWhile (· == ' ')).reverse)

end Collation

/-! ## Numbers at the front of text -/

/-- The parts of a number at the front of a text. -/
structure Front where
  negative : Bool
  digits : Nat
  power : Int
  /-- There are digits. -/
  known : Bool
  /-- There is a point. -/
  point : Bool
  /-- There is a letter for an exponent. -/
  scaled : Bool
  /-- The exponent has digits. -/
  valid : Bool
  /-- Nothing but white space is behind the number. -/
  complete : Bool
  /-- The digits in front of a point. -/
  whole : Nat

/-- The number at the front of a text. -/
def Front.of (s : String) : Front :=
  let (negative, cs) := Digits.takeSign (s.toList.dropWhile Cell.isPad)
  let (whole, cs) := Digits.take cs
  let (point, fraction, cs) :=
    match cs with
    | '.' :: cs => let (f, cs) := Digits.take cs; (true, f, cs)
    | cs => (false, [], cs)
  let (scaled, exponent, digits, cs) :=
    match cs with
    | e :: cs' =>
      if e == 'e' || e == 'E' then
        let (n, cs) := Digits.takeSign cs'
        let (ds, cs) := Digits.take cs
        (true, Digits.signed n (Digits.value (ds.take 6)), !ds.isEmpty, cs)
      else (false, 0, true, cs)
    | [] => (false, 0, true, [])
  { negative
    digits := Digits.value (whole ++ fraction)
    power := exponent - fraction.length
    known := !(whole.isEmpty && fraction.isEmpty)
    point, scaled
    valid := digits
    complete := cs.all Cell.isPad
    whole := Digits.value whole }

namespace Front

/-- The number as a real. -/
def real (f : Front) : Binary64 :=
  if f.known then Cell.realOf f.negative f.digits f.power else .zero false

/-- The digits in front of a point, as an integer if they are not too many. -/
def int? (f : Front) : Option Int :=
  let i := Digits.signed f.negative f.whole
  if minInt ≤ i && i ≤ maxInt then some i else none

/-- The text is a whole number, or does not go on as a number that a real is. -/
def isWhole (f : Front) : Bool :=
  if f.complete && f.known && f.valid then !f.point && !f.scaled
  else !(f.known && (f.point || f.scaled) && ((f.point && f.scaled) || f.valid))

/-- The number as a cell. -/
def cell (f : Front) : Cell :=
  match f.isWhole, f.int? with
  | true, some i => .int i
  | _, _ => .real f.real

end Front

end Sql

namespace Cell

open Sql

/-! ## Cells as something else -/

/-- An integer kept within its bounds. -/
def clamp (i : Int) : Int := if i < minInt then minInt else if maxInt < i then maxInt else i

/-- The text of a cell, unless it is NULL. -/
def shown? : Cell → Option String
  | null => none
  | int i => some (toString i)
  | real r => some (realText r)
  | text s => some s
  | blob b => some (Text.decodeLossy b)

/-- The bytes of a cell, unless it is NULL. -/
def bytes? : Cell → Option Bytes
  | blob b => some b
  | c => c.shown?.map fun s => Text.encode s

/-- A cell as a number. NULL stays. -/
def number : Cell → Cell
  | text s => (Front.of s).cell
  | blob b => (Front.of (Text.decodeLossy b)).cell
  | c => c

/-- A cell as a real; NULL is 0. -/
def toReal : Cell → Binary64
  | null => .zero false
  | int i => .ofInt i
  | real r => r
  | text s => (Front.of s).real
  | blob b => (Front.of (Text.decodeLossy b)).real

/-- A cell as an integer, without its fraction; NULL is 0. -/
def integer : Cell → Int
  | null => 0
  | int i => i
  | real r => clamp (r.whole maxNat)
  | text s => clamp (let f := Front.of s; Digits.signed f.negative f.whole)
  | blob b => clamp (let f := Front.of (Text.decodeLossy b); Digits.signed f.negative f.whole)

/-- Whether a cell counts as true; NULL does not tell. -/
def truth? : Cell → Option Bool
  | null => none
  | int i => some (i != 0)
  | c => some (!c.toReal.isZero)

/-- A truth value as a cell. -/
def ofTruth : Option Bool → Cell
  | none => null
  | some b => flag b

/-- A real as a cell; what is no number is NULL. -/
def ofReal : Binary64 → Cell
  | .nan => null
  | r => real r

/-- Reals whose whole value is sure lie within this bound. -/
def sureBound : Int := 2251799813685248

/-- A cell cast to an affinity. -/
def cast (a : Affinity) : Cell → Cell
  | null => null
  | c =>
    match a with
    | .blob => blob (c.bytes?.getD [])
    | .text => text (c.shown?.getD "")
    | .integer => int c.integer
    | .real => real c.toReal
    | .numeric =>
      match c with
      | int i => int i
      | real r => real r
      | c =>
        match c.number with
        | real r =>
          match r.toInt? with
          | some i => if -sureBound ≤ i && i < sureBound then int i else real r
          | none => real r
        | n => n

end Cell

namespace Sql

/-! ## Comparisons -/

/-- How two cells are compared. -/
structure Comparison where
  /-- What text and numbers are turned into. -/
  affinity : Option Affinity := none
  collation : Collation := .binary
deriving DecidableEq, Repr

namespace Comparison

/-- Two cells, turned into what is compared. -/
def prepare (c : Comparison) (a b : Cell) : Cell × Cell :=
  match c.affinity with
  | some .text =>
    if a.type == .text || b.type == .text then (a.preferText, b.preferText) else (a, b)
  | some .blob | none => (a, b)
  | some _ => (a.preferInteger, b.preferInteger)

/-- The order of two texts or other cells. -/
def order (c : Comparison) (a b : Cell) : Ordering :=
  match c.prepare a b with
  | (.text s, .text t) => compare (c.collation.key s) (c.collation.key t)
  | (a, b) => a.order b

/-- Two cells are equal, NULL only to itself. -/
def same (c : Comparison) (a b : Cell) : Bool := c.order a b == .eq

/-- Whether two cells are equal; with NULL nothing is told. -/
def equal? (c : Comparison) (a b : Cell) : Option Bool :=
  if Cell.bothKnown a b then some (c.same a b) else none

end Comparison

/-- What a comparison asks. -/
inductive Comparator
  | eq
  | ne
  | lt
  | le
  | gt
  | ge
deriving DecidableEq, Repr

/-- The comparator holds of cells in this order. -/
def Comparator.holds : Comparator → Ordering → Bool
  | eq, o => o == .eq
  | ne, o => o != .eq
  | lt, o => o == .lt
  | le, o => o != .gt
  | gt, o => o == .gt
  | ge, o => o != .lt

/-! ## Arithmetic -/

/-- Operators between two numbers. -/
inductive Arithmetic
  | add
  | subtract
  | multiply
  | divide
  | modulo
  | bitAnd
  | bitOr
  | shiftLeft
  | shiftRight
deriving DecidableEq, Repr

namespace Arithmetic

/-- The remainder of a division toward zero. -/
def remainder (a b : Int) : Option Int := if b == 0 then none else some (Int.tmod a b)

/-- The result on integers, if it is one. -/
def onInts? (op : Arithmetic) (a b : Int) : Option Int :=
  let r :=
    match op with
    | add => a + b
    | subtract => a - b
    | multiply => a * b
    | _ => Int.tdiv a b
  if minInt ≤ r && r ≤ maxInt then some r else none

/-- The result on reals. -/
def onReals (op : Arithmetic) (a b : Binary64) : Binary64 :=
  match op with
  | add => a.add b
  | subtract => a.subtract b
  | multiply => a.multiply b
  | _ => a.divide b

/-- The number of integers that 64 bits can hold. -/
def word : Nat := 18446744073709551616

/-- An integer shifted to the left, or to the right if the number is negative; what falls off the
end is lost. -/
def shift (a places : Int) : Int :=
  if 0 ≤ places then if 64 ≤ places then 0 else Int.bmod (a * Int.pow 2 places.toNat) word
  else a / Int.pow 2 (min 64 (-places)).toNat

/-- The bits of an integer. -/
def bits (a : Int) : Nat := (a % word).toNat

/-- The integer of some bits. -/
def ofBits (n : Nat) : Int := Int.bmod n word

/-- The result on two cells. -/
def apply (op : Arithmetic) (a b : Cell) : Cell :=
  if a == .null || b == .null then .null
  else
    match op with
    | bitAnd => .int (ofBits (bits a.integer &&& bits b.integer))
    | bitOr => .int (ofBits (bits a.integer ||| bits b.integer))
    | shiftLeft => .int (shift a.integer b.integer)
    | shiftRight => .int (shift a.integer (-b.integer))
    | modulo =>
      match a.number, b.number with
      | .int i, .int j => ((remainder i j).map Cell.int).getD .null
      | x, y => ((remainder x.integer y.integer).map fun r => Cell.real (.ofInt r)).getD .null
    | op =>
      let onReals (x y : Cell) : Cell :=
        if op == divide && y.toReal.isZero then .null
        else Cell.ofReal (op.onReals x.toReal y.toReal)
      match a.number, b.number with
      | .int i, .int j =>
        if op == divide && j == 0 then .null
        else
          match op.onInts? i j with
          | some r => .int r
          | none => onReals (.int i) (.int j)
      | x, y => onReals x y

end Arithmetic

end Sql

end RevisionLog
