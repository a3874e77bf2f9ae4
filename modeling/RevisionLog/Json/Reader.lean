import RevisionLog.Decimal.Digits
import RevisionLog.Json.Basic
import RevisionLog.Text.Reading

/-!
# Reading JSON

Readers take the text that is left and give back what they have read and what is left then.

* `Json.stringBody` — a string after its opening quote.
* `Json.readNumber` — a number; integers that fit neither 64-bit type are reals.
* `Json.ignoreValue` — passes over any value.
* `Json.parse?` — a whole text as one value.
-/

namespace RevisionLog.Json

/-- White space between the parts of a text. -/
def isBlank (c : Char) : Bool := c == ' ' || c == '\n' || c == '\t' || c == '\r'

/-- The text without the white space in front. -/
def skip (cs : List Char) : List Char := cs.dropWhile isBlank

/-! ## Strings -/

/-- What stands for a character after a backslash. -/
def unescape : Char → Option Char
  | '"' => some '"'
  | '\\' => some '\\'
  | '/' => some '/'
  | 'b' => some '\x08'
  | 'f' => some '\x0c'
  | 'n' => some '\n'
  | 'r' => some '\r'
  | 't' => some '\t'
  | _ => none

/-- The first half of a character beyond the first 65536. -/
def isHighHalf (n : Nat) : Bool := 0xd800 ≤ n && n ≤ 0xdbff

/-- The second half of such a character. -/
def isLowHalf (n : Nat) : Bool := 0xdc00 ≤ n && n ≤ 0xdfff

/-- The contents of a string up to its closing quote, and the rest. -/
def stringBody : List Char → Option (List Char × List Char)
  | [] => none
  | '"' :: cs => some ([], cs)
  | '\\' :: 'u' :: a :: b :: c :: d :: cs =>
    match Text.hexUnit a b c d with
    | none => none
    | some n =>
      if isHighHalf n then
        match cs with
        | '\\' :: 'u' :: e :: f :: g :: h :: cs =>
          match Text.hexUnit e f g h with
          | none => none
          | some m =>
            if isLowHalf m then
              Text.push (Char.ofNat (0x10000 + 1024 * (n - 0xd800) + (m - 0xdc00))) (stringBody cs)
            else none
        | _ => none
      else if isLowHalf n then none
      else Text.push (Char.ofNat n) (stringBody cs)
  | '\\' :: e :: cs =>
    match unescape e with
    | some c => Text.push c (stringBody cs)
    | none => none
  | c :: cs => if c < ' ' then none else Text.push c (stringBody cs)

/-- The rest after a string that is passed over; halves of characters may stand alone in it. -/
def ignoreString : List Char → Option (List Char)
  | [] => none
  | '"' :: cs => some cs
  | '\\' :: 'u' :: a :: b :: c :: d :: cs =>
    if (Text.hexUnit a b c d).isSome then ignoreString cs else none
  | '\\' :: e :: cs => if (unescape e).isSome then ignoreString cs else none
  | c :: cs => if c < ' ' then none else ignoreString cs

/-! ## Numbers -/

/-- The parts of a number: integer digits, fraction digits and exponent, where there are any. -/
structure NumberParts where
  negative : Bool
  whole : List Char
  fraction : Option (List Char)
  exponent : Option (Bool × List Char)

/-- A minus in front, if there is one, and the rest. -/
def takeMinus : List Char → Bool × List Char
  | '-' :: cs => (true, cs)
  | cs => (false, cs)

/-- The digits after a point in front, if there is one, and the rest. -/
def takeFraction : List Char → Option (Option (List Char) × List Char)
  | '.' :: cs =>
    let (ds, cs) := Digits.take cs
    if ds.isEmpty then none else some (some ds, cs)
  | cs => some (none, cs)

/-- The exponent in front, if there is one, and the rest. -/
def takeExponent : List Char → Option (Option (Bool × List Char) × List Char)
  | [] => some (none, [])
  | e :: cs =>
    if e == 'e' || e == 'E' then
      let (down, cs) := Digits.takeSign cs
      let (ds, cs) := Digits.take cs
      if ds.isEmpty then none else some (some (down, ds), cs)
    else some (none, e :: cs)

/-- Splits a number off; `none` when there is no well-formed one. -/
def numberParts (cs : List Char) : Option (NumberParts × List Char) :=
  let (negative, cs) := takeMinus cs
  let (whole, cs) := Digits.take cs
  if whole.isEmpty || (whole.head? == some '0' && 1 < whole.length) then none
  else do
    let (fraction, cs) ← takeFraction cs
    let (exponent, cs) ← takeExponent cs
    return (⟨negative, whole, fraction, exponent⟩, cs)

/-- Takes digits into a 64-bit natural while they fit: the natural, and how many did not. -/
def gather (n : Nat) : List Char → Nat × Nat
  | [] => (n, 0)
  | d :: ds =>
    let m := 10 * n + Digits.ofChar d
    if m ≤ maxNat then gather m ds else (n, ds.length + 1)

/-- A power of ten as the format holds it. -/
def powerOfTen (n : Nat) : Binary64 := .ofDecimal false 1 n

/-- The number `x` times or divided by `10 ^ |e|`, rounded at each step; a step goes up to 308
places, and `none` is past the greatest number. -/
def shiftDecimal : Nat → Binary64 → Int → Option Binary64
  | 0, x, _ => some x
  | steps + 1, x, e =>
    let power (n : Nat) : Nat × Nat :=
      match powerOfTen n with
      | .finite _ m k => Binary64.ratio m k
      | _ => (1, 1)
    if e.natAbs ≤ 308 then
      let (n, d) := power e.natAbs
      if 0 ≤ e then
        match x.scale n d with
        | .infinite _ => none
        | x => some x
      else some (x.scale d n)
    else if x == .zero false then some x
    else if 0 ≤ e then none
    else
      let (n, d) := power 308
      shiftDecimal steps (x.scale d n) (e + 308)

/-- The sign put on a number. -/
def signed (negative : Bool) : Binary64 → Binary64
  | .finite _ m e => .finite negative m e
  | .infinite _ => .infinite negative
  | .nan => .nan

/-- The greatest exponent that is counted. -/
def maxExponentDigits : Nat := 2147483647

/-- What a number's parts mean; `none` when the number is too great. -/
def NumberParts.value (p : NumberParts) : Option Json :=
  let (n, dropped) := gather 0 p.whole
  match p.fraction, p.exponent with
  | none, none =>
    if dropped == 0 then
      if !p.negative then some (int n)
      else if n == 0 || -(n : Int) < minInt then some (real (.ofRatio true n 1))
      else some (int (-n))
    else (shiftDecimal 4 (.ofRatio false n 1) dropped).map fun x => real (signed p.negative x)
  | fraction, exponent =>
    let ds := fraction.getD []
    let (n, skipped) := gather n ds
    let base : Int := dropped - ((ds.length : Int) - skipped)
    let power := Digits.value ((exponent.map (·.2)).getD [])
    let down := (exponent.map (·.1)).getD false
    if maxExponentDigits < power then
      if n != 0 && !down then none else some (real (.zero p.negative))
    else
      (shiftDecimal 4 (.ofRatio false n 1) (if down then base - power else base + power)).map
        fun x => real (signed p.negative x)

/-- A number, and the rest. -/
def readNumber (cs : List Char) : Option (Json × List Char) := do
  let (parts, rest) ← numberParts cs
  return (← parts.value, rest)

/-- The text that begins a number. -/
def startsNumber (c : Char) : Bool := c == '-' || c.isDigit

/-! ## Whole values -/

/-- The rest after a word. -/
def readWord : List Char → List Char → Option (List Char)
  | [], cs => some cs
  | w :: ws, c :: cs => if w == c then readWord ws cs else none
  | _ :: _, [] => none

/-- One of `true`, `false` and `null`, and the rest. -/
def readName (cs : List Char) : Option (Json × List Char) :=
  match cs with
  | 't' :: _ => (readWord "true".toList cs).map fun rest => (bool true, rest)
  | 'f' :: _ => (readWord "false".toList cs).map fun rest => (bool false, rest)
  | 'n' :: _ => (readWord "null".toList cs).map fun rest => (null, rest)
  | _ => none

/-- The text after a colon. -/
def readColon (cs : List Char) : Option (List Char) :=
  match skip cs with
  | ':' :: cs => some cs
  | _ => none

mutual

/-- The rest after any value. -/
def ignoreValue : Nat → List Char → Option (List Char)
  | 0, _ => none
  | fuel + 1, cs =>
    match skip cs with
    | '"' :: cs => ignoreString cs
    | '[' :: cs =>
      match skip cs with
      | ']' :: cs => some cs
      | cs => (ignoreValue fuel cs).bind (ignoreItems fuel)
    | '\x7b' :: cs =>
      match skip cs with
      | '\x7d' :: cs => some cs
      | cs => ignoreMembers fuel cs
    | c :: cs =>
      if startsNumber c then (numberParts (c :: cs)).map (·.2)
      else (readName (c :: cs)).map (·.2)
    | [] => none

/-- The rest after the further items of an array. -/
def ignoreItems : Nat → List Char → Option (List Char)
  | 0, _ => none
  | fuel + 1, cs =>
    match skip cs with
    | ']' :: cs => some cs
    | ',' :: cs => (ignoreValue fuel cs).bind (ignoreItems fuel)
    | _ => none

/-- The rest after the members of an object, at least one. -/
def ignoreMembers : Nat → List Char → Option (List Char)
  | 0, _ => none
  | fuel + 1, cs => do
    match skip cs with
    | '"' :: cs =>
      let rest ← ignoreValue fuel (← readColon (← ignoreString cs))
      match skip rest with
      | '\x7d' :: cs => some cs
      | ',' :: cs => ignoreMembers fuel cs
      | _ => none
    | _ => none

end

mutual

/-- A value at most `depth` levels deep, and the rest. -/
def readValue (depth : Nat) : Nat → List Char → Option (Json × List Char)
  | 0, _ => none
  | fuel + 1, cs =>
    match skip cs with
    | '"' :: cs => (stringBody cs).map fun (s, rest) => (string (String.ofList s), rest)
    | '[' :: cs =>
      if depth == 0 then none
      else
        match skip cs with
        | ']' :: cs => some (array [], cs)
        | cs => do
          let (v, rest) ← readValue (depth - 1) fuel cs
          let (vs, rest) ← readItems (depth - 1) fuel rest
          return (array (v :: vs), rest)
    | '\x7b' :: cs =>
      if depth == 0 then none
      else
        match skip cs with
        | '\x7d' :: cs => some (object [], cs)
        | cs => do
          let (ms, rest) ← readMembers (depth - 1) fuel cs
          return (object ms, rest)
    | c :: cs => if startsNumber c then readNumber (c :: cs) else readName (c :: cs)
    | [] => none

/-- The further items of an array, and the rest. -/
def readItems (depth : Nat) : Nat → List Char → Option (List Json × List Char)
  | 0, _ => none
  | fuel + 1, cs =>
    match skip cs with
    | ']' :: cs => some ([], cs)
    | ',' :: cs => do
      let (v, rest) ← readValue depth fuel cs
      let (vs, rest) ← readItems depth fuel rest
      return (v :: vs, rest)
    | _ => none

/-- The members of an object, at least one, and the rest. -/
def readMembers (depth : Nat) : Nat → List Char → Option (List (String × Json) × List Char)
  | 0, _ => none
  | fuel + 1, cs => do
    match skip cs with
    | '"' :: cs =>
      let (k, rest) ← stringBody cs
      let (v, rest) ← readValue depth fuel (← readColon rest)
      match skip rest with
      | '\x7d' :: cs => return ([(String.ofList k, v)], cs)
      | ',' :: cs =>
        let (ms, rest) ← readMembers depth fuel cs
        return ((String.ofList k, v) :: ms, rest)
      | _ => none
    | _ => none

end

/-- How deep a value may be. -/
def maxDepth : Nat := 127

/-- A whole text as one value. -/
def parse? (text : String) : Option Json :=
  match readValue maxDepth (2 * text.length + 2) text.toList with
  | some (v, rest) => if (skip rest).isEmpty then some v else none
  | none => none

end RevisionLog.Json
