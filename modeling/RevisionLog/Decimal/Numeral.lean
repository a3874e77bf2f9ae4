import RevisionLog.Decimal.Binary64
import RevisionLog.Decimal.Digits

/-!
# Numbers in text

`Binary64.ofText?` reads the number that a whole text writes: digits with at most one point among or
beside them and an optional exponent, or a word for what is no number or beyond all numbers.
-/

namespace RevisionLog.Binary64

/-- An exponent at the end of a number: nothing, or `e` with a whole number. -/
def exponent? : List Char → Option Int
  | [] => some 0
  | c :: cs =>
    if c != 'e' && c != 'E' then none
    else
      let (negative, cs) := Digits.takeSign cs
      (Digits.whole? cs).map (Digits.signed negative)

/-- Digits, at most one point, and an exponent, as the digits and their power of ten. -/
def decimal? (cs : List Char) : Option (Nat × Int) :=
  let (whole, rest) := Digits.take cs
  let (fraction, rest) :=
    match rest with
    | '.' :: cs => Digits.take cs
    | cs => ([], cs)
  if whole.isEmpty && fraction.isEmpty then none
  else (exponent? rest).map fun e => (Digits.value (whole ++ fraction), e - fraction.length)

/-- The number that a text writes. -/
def ofText? (s : String) : Option Binary64 :=
  let (negative, cs) := Digits.takeSign s.toList
  match String.ofList (cs.map Char.toLower) with
  | "inf" | "infinity" => some (infinite negative)
  | "nan" => some nan
  | _ => (decimal? cs).map fun (d, e) => ofDecimal negative d e

end RevisionLog.Binary64
