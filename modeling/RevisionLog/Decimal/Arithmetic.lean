import RevisionLog.Decimal.Binary64

/-!
# Arithmetic of binary floating point

Every result is the number nearest to the exact one.

* `Binary64.ofInt` — a whole number; `Binary64.whole` — what is left without the fraction.
* `Binary64.add`, `Binary64.subtract`, `Binary64.multiply`, `Binary64.divide`.
* `Binary64.rounded` — a number of digits, a half going up.
-/

namespace RevisionLog.Binary64

/-- The number nearest to a whole one. -/
def ofInt (i : Int) : Binary64 := ofRatio (i < 0) i.natAbs 1

/-- The number is below zero, or a zero with a minus. -/
def isNegative : Binary64 → Bool
  | finite negative _ _ | infinite negative => negative
  | nan => false

/-- The number is zero. -/
def isZero : Binary64 → Bool
  | finite _ m _ => m == 0
  | _ => false

/-- The number with the other sign. -/
def negate : Binary64 → Binary64
  | finite negative m e => finite (!negative) m e
  | infinite negative => infinite (!negative)
  | nan => nan

/-- The number without its fraction; what is beyond all numbers counts as `bound`. -/
def whole (bound : Nat) : Binary64 → Int
  | finite negative m e =>
    let (n, d) := ratio m e
    if negative then -(n / d : Nat) else (n / d : Nat)
  | infinite negative => if negative then -(bound : Int) else bound
  | nan => 0

/-- The sum of two numbers. -/
def add : Binary64 → Binary64 → Binary64
  | finite a m e, finite b n f =>
    let (mn, md) := ratio m e
    let (nn, nd) := ratio n f
    let x : Int := if a then -(mn * nd : Nat) else (mn * nd : Nat)
    let y : Int := if b then -(nn * md : Nat) else (nn * md : Nat)
    if m == 0 && n == 0 then zero (a && b) else ofRatio (x + y < 0) (x + y).natAbs (md * nd)
  | infinite a, infinite b => if a == b then infinite a else nan
  | nan, _ | _, nan => nan
  | infinite a, _ | _, infinite a => infinite a

/-- The difference of two numbers. -/
def subtract (x y : Binary64) : Binary64 := x.add y.negate

/-- The product of two numbers. -/
def multiply : Binary64 → Binary64 → Binary64
  | finite a m e, finite b n f =>
    let (mn, md) := ratio m e
    let (nn, nd) := ratio n f
    ofRatio (a != b) (mn * nn) (md * nd)
  | nan, _ | _, nan => nan
  | x, y => if x.isZero || y.isZero then nan else infinite (x.isNegative != y.isNegative)

/-- The quotient of two numbers. -/
def divide : Binary64 → Binary64 → Binary64
  | finite a m e, finite b n f =>
    let (mn, md) := ratio m e
    let (nn, nd) := ratio n f
    if n == 0 then if m == 0 then nan else infinite (a != b)
    else ofRatio (a != b) (mn * nd) (md * nn)
  | nan, _ | _, nan | infinite _, infinite _ => nan
  | infinite a, y => infinite (a != y.isNegative)
  | x, infinite b => zero (x.isNegative != b)

/-- The nearest whole number above zero to `num / den`, a half going up. -/
def divUp (num den : Nat) : Nat := (2 * num + den) / (2 * den)

/-- The first `count` digits of `mantissa · 2 ^ exponent`, the last of them rounded, and the power
of ten of that one. -/
def rounded (count mantissa : Nat) (exponent : Int) : Nat × Int :=
  let (n, d) := ratio mantissa exponent
  let step : Int := leadingPower n d - count + 1
  let digits := if 0 ≤ step then divUp n (d * tenTo step.toNat) else divUp (n * tenTo (-step).toNat) d
  -- a row of nines carries into one digit more
  if tenTo count ≤ digits then (digits / 10, step + 1) else (digits, step)

/-- Digits without the zeros at their end, and the power of ten of the last that is left. The
number bounds the steps. -/
def stripped : Nat → Nat → Int → Nat × Int
  | 0, d, k => (d, k)
  | fuel + 1, d, k => if d != 0 && d % 10 == 0 then stripped fuel (d / 10) (k + 1) else (d, k)

/-- The number of places after the point. -/
def places (count : Nat) (mantissa : Nat) (exponent : Int) : Nat :=
  let (n, d) := ratio mantissa exponent
  divUp (n * tenTo count) d

end RevisionLog.Binary64
