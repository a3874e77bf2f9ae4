/-!
# Decimal digits

* `Digits.take` — the digits at the front of a text; `Digits.value` — what they write.
* `Digits.int?` — a whole number with an optional sign; `Digits.nat?` — one without a minus.
* `minInt`, `maxInt`, `maxNat` — the bounds of the integers of 64 bits.
-/

namespace RevisionLog

/-- The least integer of 64 bits. -/
def minInt : Int := -9223372036854775808

/-- The greatest integer of 64 bits; no id is above it. -/
def maxInt : Int := 9223372036854775807

/-- The greatest natural of 64 bits. -/
def maxNat : Nat := 18446744073709551615

namespace Digits

/-- The digits in front, and the rest. -/
def take (cs : List Char) : List Char × List Char :=
  (cs.takeWhile Char.isDigit, cs.dropWhile Char.isDigit)

/-- The value of one digit. -/
def ofChar (c : Char) : Nat := c.toNat - '0'.toNat

/-- The number that digits write. -/
def value (ds : List Char) : Nat := ds.foldl (fun n d => 10 * n + ofChar d) 0

/-- A sign, and the rest; `true` is a minus. -/
def takeSign : List Char → Bool × List Char
  | '-' :: cs => (true, cs)
  | '+' :: cs => (false, cs)
  | cs => (false, cs)

/-- A natural with a sign put on it. -/
def signed (negative : Bool) (n : Nat) : Int := if negative then -(n : Int) else n

/-- The natural that digits alone write. -/
def whole? (cs : List Char) : Option Nat :=
  if cs.isEmpty || !cs.all Char.isDigit then none else some (value cs)

/-- The whole number that a text writes, with an optional sign. -/
def int? (s : String) : Option Int :=
  let (negative, cs) := takeSign s.toList
  (whole? cs).map (signed negative)

/-- The natural that a text writes, with an optional plus. -/
def nat? (s : String) : Option Nat :=
  match s.toList with
  | '+' :: cs => whole? cs
  | cs => whole? cs

/-- The integer of 64 bits that a text writes. -/
def int64? (s : String) : Option Int := (int? s).filter fun i => minInt ≤ i && i ≤ maxInt

/-- The natural of 64 bits that a text writes. -/
def nat64? (s : String) : Option Nat := (nat? s).filter (· ≤ maxNat)

end Digits

end RevisionLog
