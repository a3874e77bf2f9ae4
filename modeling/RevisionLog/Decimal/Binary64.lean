/-!
# Binary floating point, exactly

Numbers of the IEEE format binary64, kept as a sign, a natural and a power of two, so that all that
is done with them is done in whole numbers.

* `Binary64.ofRatio` — the number nearest to a quotient; a tie goes to the even neighbour.
* `Binary64.ofDecimal` — the number nearest to a decimal.
* `Binary64.shortest` — the fewest decimal digits that read back as the number.
-/

namespace RevisionLog

/-- A number of the format binary64. -/
inductive Binary64
  /-- The number `± mantissa · 2 ^ exponent`; the mantissa is below `2 ^ 53`, and from `2 ^ 52` on
  unless the exponent is -1074. -/
  | finite (negative : Bool) (mantissa : Nat) (exponent : Int)
  | infinite (negative : Bool)
  | nan
deriving DecidableEq, Repr

namespace Binary64

/-- The power `2 ^ n`. -/
def twoTo (n : Nat) : Nat := Nat.pow 2 n

/-- The power `10 ^ n`. -/
def tenTo (n : Nat) : Nat := Nat.pow 10 n

/-- The least mantissa above the least exponent, `2 ^ 52`. -/
def hiddenBit : Nat := 4503599627370496

/-- The least exponent. -/
def minExponent : Int := -1074

/-- The greatest exponent. -/
def maxExponent : Int := 971

/-- Zero with a sign. -/
def zero (negative : Bool) : Binary64 := finite negative 0 minExponent

/-- The quotient `num / den` rounded to the nearest natural; a tie goes to the even one. -/
def divEven (num den : Nat) : Nat :=
  let q := num / den
  let r := 2 * (num % den)
  if r < den then q else if den < r then q + 1 else if q % 2 == 0 then q else q + 1

/-- The exponent at which the mantissa of `num / den` has 53 bits, or the least there is. -/
def exponentOf (num den : Nat) : Int :=
  let guess : Int := (num.log2 : Int) - (den.log2 : Int) - 52
  -- the mantissa at `guess` has 52 or 53 bits
  let small :=
    if 0 ≤ guess then num / (den * twoTo guess.toNat) < hiddenBit
    else num * twoTo (-guess).toNat / den < hiddenBit
  max minExponent (if small then guess - 1 else guess)

/-- The number nearest to `± num / den`. -/
def ofRatio (negative : Bool) (num den : Nat) : Binary64 :=
  if num == 0 then zero negative
  else
    let e := exponentOf num den
    let m :=
      if 0 ≤ e then divEven num (den * twoTo e.toNat) else divEven (num * twoTo (-e).toNat) den
    let (m, e) := if m == (2 * hiddenBit) then (hiddenBit, e + 1) else (m, e)
    if maxExponent < e then infinite negative else finite negative m e

/-- The number nearest to `± digits · 10 ^ exponent`. Exponents far outside the format are cut
short, to the same answer. -/
def ofDecimal (negative : Bool) (digits : Nat) (exponent : Int) : Binary64 :=
  let size : Int := exponent + (Nat.toDigits 10 digits).length
  if digits == 0 || size < -400 then zero negative
  else if 400 < size then infinite negative
  else if 0 ≤ exponent then ofRatio negative (digits * tenTo exponent.toNat) 1
  else ofRatio negative digits (tenTo (-exponent).toNat)

/-- The size of a finite number as a quotient. -/
def ratio (mantissa : Nat) (exponent : Int) : Nat × Nat :=
  if 0 ≤ exponent then (mantissa * twoTo exponent.toNat, 1) else (mantissa, twoTo (-exponent).toNat)

/-- The number times `num / den`, rounded. -/
def scale (x : Binary64) (num den : Nat) : Binary64 :=
  match x with
  | finite negative m e => let (n, d) := ratio m e; ofRatio negative (n * num) (d * den)
  | x => x

/-- How a number compares with a whole one; NaN comes before all. -/
def compareInt (x : Binary64) (i : Int) : Ordering :=
  match x with
  | nan => .lt
  | infinite negative => if negative then .lt else .gt
  | finite negative m e =>
    let (n, d) := ratio m e
    compare (if negative then -(n : Int) else n) (i * d)

/-- How two numbers compare; NaN comes before all. -/
def compare (x y : Binary64) : Ordering :=
  match x, y with
  | nan, nan => .eq
  | nan, _ => .lt
  | _, nan => .gt
  | infinite a, infinite b => if a == b then .eq else if a then .lt else .gt
  | infinite a, _ => if a then .lt else .gt
  | _, infinite b => if b then .gt else .lt
  | finite a m e, finite b n f =>
    let (mn, md) := ratio m e
    let (nn, nd) := ratio n f
    let x : Int := if a then -(mn * nd : Nat) else (mn * nd : Nat)
    let y : Int := if b then -(nn * md : Nat) else (nn * md : Nat)
    Ord.compare x y

/-- The whole number that a number is, if it is one. -/
def toInt? : Binary64 → Option Int
  | finite negative m e =>
    let (n, d) := ratio m e
    if n % d == 0 then some (if negative then -((n / d : Nat) : Int) else (n / d : Nat)) else none
  | _ => none

/-- The nearest natural, a half going up, within `0 … bound`; NaN counts as 0. -/
def roundNat (bound : Nat) : Binary64 → Nat
  | nan => 0
  | infinite negative => if negative then 0 else bound
  | finite negative m e =>
    if negative then 0
    else let (n, d) := ratio m e; min bound ((2 * n + d) / (2 * d))

/-! ## Shortest digits -/

/-- The quotients between which everything rounds to `mantissa · 2 ^ exponent`: numerators of the
lower end, the number and the upper end over one denominator. -/
def interval (mantissa : Nat) (exponent : Int) : Nat × Nat × Nat × Nat :=
  let (n, d) := ratio 1 exponent
  -- below a power of two the numbers lie twice as dense
  let lower := if mantissa == hiddenBit && minExponent < exponent then 1 else 2
  ((4 * mantissa - lower) * n, 4 * mantissa * n, (4 * mantissa + 2) * n, 4 * d)

/-- The power of ten of the first digit of `num / den`, searched upwards. -/
def leadingPower (num den : Nat) : Int :=
  let guess : Int := ((num.log2 : Int) - (den.log2 : Int) - 1) * 30103 / 100000 - 1
  let atLeast (p : Int) : Bool :=
    if 0 ≤ p then decide (den * tenTo p.toNat ≤ num) else decide (den ≤ num * tenTo (-p).toNat)
  let climb := (List.range 4).filter fun (k : Nat) => atLeast (guess + k)
  guess + (climb.length : Int) - 1

/-- Which of two decimals is taken that are as near to a number. -/
inductive Tie
  /-- The one whose last digit is even. -/
  | toEven
  /-- The greater one. -/
  | up
deriving DecidableEq, Repr

/-- The lower of two neighbours that are as near is taken. -/
def Tie.takesLower (tie : Tie) (lower : Nat) : Bool :=
  match tie with
  | toEven => lower % 2 == 0
  | up => false

/-- The decimals of `count` digits next to the number and inside its interval; the nearer of two,
and of two as near the one that `tie` takes. -/
def nearestOf (tie : Tie) (lo v hi den : Nat) (inclusive : Bool) (power : Int) (count : Nat) :
    Option (Nat × Int) :=
  let step : Int := power - count + 1
  let up := if 0 ≤ step then 1 else tenTo (-step).toNat
  let down := den * if 0 ≤ step then tenTo step.toNat else 1
  let floor := v * up / down
  let inside (k : Nat) : Bool :=
    if inclusive then lo * up ≤ k * down && k * down ≤ hi * up
    else lo * up < k * down && k * down < hi * up
  let below := v * up - floor * down
  let above := (floor + 1) * down - v * up
  match inside floor, inside (floor + 1) with
  | true, true =>
    if below < above || (below == above && tie.takesLower floor) then some (floor, step)
    else some (floor + 1, step)
  | true, false => some (floor, step)
  | false, true => some (floor + 1, step)
  | false, false => none

/-- The fewest digits that read back as `mantissa · 2 ^ exponent`, and the power of ten of the last
of them. -/
def shortest (tie : Tie) (mantissa : Nat) (exponent : Int) : Nat × Int :=
  let (lo, v, hi, den) := interval mantissa exponent
  let power := leadingPower v den
  match (List.range 17).findSome? fun k =>
      nearestOf tie lo v hi den (mantissa % 2 == 0) power (k + 1) with
  -- just below a power of ten one digit may carry into a second
  | some (d, k) => if d % 10 == 0 then (d / 10, k + 1) else (d, k)
  | none => (v / den, 0)

/-- Zeros. -/
def zeros (n : Nat) : List Char := List.replicate n '0'

/-- Digits with a point `whole` places from the left; `fraction` is what stands for no fraction. -/
def positional (digits : List Char) (whole : Int) (fraction : List Char) : List Char :=
  if whole ≤ 0 then '0' :: '.' :: zeros (-whole).toNat ++ digits
  else if digits.length ≤ whole.toNat then digits ++ zeros (whole.toNat - digits.length) ++ fraction
  else digits.take whole.toNat ++ '.' :: digits.drop whole.toNat

/-- The number with all its places, and no fraction when it is whole; of two decimals as near the
greater is written. -/
def plain : Binary64 → String
  | nan => "NaN"
  | infinite negative => if negative then "-inf" else "inf"
  | finite negative m e =>
    let sign := if negative then ['-'] else []
    if m == 0 then String.ofList (sign ++ ['0'])
    else
      let (d, k) := shortest .up m e
      let digits := Nat.toDigits 10 d
      String.ofList (sign ++ positional digits (digits.length + k) [])

/-- The number with a point or an exponent: an exponent is written when the first digit stands
below the fifth place after the point or above the sixteenth before it. Of two decimals as near the
even one is written. -/
def pointed : Binary64 → String
  | nan => "NaN"
  | infinite negative => if negative then "-inf" else "inf"
  | finite negative m e =>
    let sign := if negative then ['-'] else []
    if m == 0 then String.ofList (sign ++ ['0', '.', '0'])
    else
      let (d, k) := shortest .toEven m e
      let digits := Nat.toDigits 10 d
      let power : Int := digits.length + k - 1
      if -5 ≤ power && power ≤ 15 then
        String.ofList (sign ++ positional digits (power + 1) ['.', '0'])
      else
        let fraction := if digits.length ≤ 1 then [] else '.' :: digits.drop 1
        let direction := if power < 0 then '-' else '+'
        String.ofList
          (sign ++ digits.take 1 ++ fraction ++ 'e' :: direction :: Nat.toDigits 10 power.natAbs)

end Binary64

end RevisionLog
