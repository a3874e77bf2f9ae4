import RevisionLog.Sql.Value

/-!
# Formatted text

`formatText` puts arguments into a text: a percent sign with a letter stands for the next argument,
written as the letter says; between the two a sign, a width and a precision can be given.
-/

namespace RevisionLog.Sql

/-- How an argument is written. -/
structure FormatSpec where
  left : Bool := false
  plus : Bool := false
  space : Bool := false
  zero : Bool := false
  grouped : Bool := false
  alternate : Bool := false
  width : Nat := 0
  precision : Option Nat := none

namespace FormatSpec

/-- Takes a flag, if the character is one. -/
def flag? (f : FormatSpec) : Char → Option FormatSpec
  | '-' => some { f with left := true }
  | '+' => some { f with plus := true }
  | ' ' => some { f with space := true }
  | '0' => some { f with zero := true }
  | ',' => some { f with grouped := true }
  | '#' => some { f with alternate := true }
  | '!' => some f
  | _ => none

/-- Takes the flags in front. -/
def takeFlags (f : FormatSpec) : List Char → FormatSpec × List Char
  | [] => (f, [])
  | c :: cs =>
    match f.flag? c with
    | some f => takeFlags f cs
    | none => (f, c :: cs)

/-- Text brought to the width. -/
def padded (f : FormatSpec) (cs : List Char) : List Char :=
  let fill := List.replicate (f.width - cs.length) ' '
  if f.left then cs ++ fill else fill ++ cs

/-- The sign of a number. -/
def signOf (f : FormatSpec) (negative : Bool) : List Char :=
  if negative then ['-'] else if f.plus then ['+'] else if f.space then [' '] else []

/-- A number brought to the width, with zeros between its sign and its digits if so asked. -/
def number (f : FormatSpec) (sign digits : List Char) : List Char :=
  if f.zero && !f.left then
    sign ++ Binary64.zeros (f.width - sign.length - digits.length) ++ digits
  else f.padded (sign ++ digits)

end FormatSpec

/-- Digits with a comma in front of every third from the right. -/
def groupedDigits (ds : List Char) : List Char :=
  let n := ds.length
  ds.zipIdx.flatMap fun (d, i) => if i != 0 && (n - i) % 3 == 0 then [',', d] else [d]

/-- Every mark twice. -/
def doubled (mark : Char) (cs : List Char) : List Char :=
  cs.flatMap fun c => if c == mark then [c, c] else [c]

/-- Digits of a number with a number of places. -/
def fixedDigits (places : Nat) : Binary64 → List Char
  | .finite _ m e =>
    let ds := Nat.toDigits 10 (Binary64.places places m e)
    let ds := Binary64.zeros (places + 1 - ds.length) ++ ds
    let whole := ds.take (ds.length - places)
    if places == 0 then whole else whole ++ '.' :: ds.drop (ds.length - places)
  | _ => "Inf".toList

/-- Digits of a number with one in front of the point and an exponent. -/
def scaledDigits (places : Nat) : Binary64 → List Char
  | .finite _ m e =>
    if m == 0 then '0' :: '.' :: Binary64.zeros places ++ Cell.exponentText 0
    else
      let (d, k) := Binary64.rounded (places + 1) m e
      let ds := Nat.toDigits 10 d
      let fraction := if places == 0 then [] else '.' :: ds.drop 1
      ds.take 1 ++ fraction ++ Cell.exponentText (k + places)
  | _ => "Inf".toList

/-- An argument as a letter writes it; `none` is no such letter. -/
def formatOne (f : FormatSpec) (letter : Char) (c : Cell) : Option (List Char) :=
  let text := (c.shown?.getD "").toList
  let cut := match f.precision with
    | some n => text.take n
    | none => text
  let i := c.integer
  let bits := Arithmetic.bits i
  match letter with
  | 'd' | 'i' =>
    let ds := Nat.toDigits 10 i.natAbs
    let ds := Binary64.zeros (f.precision.getD 0 - ds.length) ++ ds
    some (f.number (f.signOf (i < 0)) (if f.grouped then groupedDigits ds else ds))
  | 'u' => some (f.number [] (Nat.toDigits 10 bits))
  | 'x' => some (f.number (if f.alternate && bits != 0 then ['0', 'x'] else []) (Nat.toDigits 16 bits))
  | 'X' =>
    some (f.number (if f.alternate && bits != 0 then ['0', 'X'] else [])
      ((Nat.toDigits 16 bits).map Char.toUpper))
  | 'o' => some (f.number (if f.alternate && bits != 0 then ['0'] else []) (Nat.toDigits 8 bits))
  | 'f' =>
    some (f.number (f.signOf c.toReal.isNegative) (fixedDigits (f.precision.getD 6) c.toReal))
  | 'e' =>
    some (f.number (f.signOf c.toReal.isNegative) (scaledDigits (f.precision.getD 6) c.toReal))
  | 'g' => some (f.padded (Cell.realText c.toReal).toList)
  | 's' | 'z' => some (f.padded cut)
  | 'c' => some (f.padded (text.take 1))
  | 'q' => some (f.padded (if c == .null then "(NULL)".toList else doubled '\'' cut))
  | 'Q' =>
    some (f.padded (if c == .null then "NULL".toList else '\'' :: doubled '\'' cut ++ ['\'']))
  | 'w' => some (f.padded (if c == .null then "(NULL)".toList else doubled '"' cut))
  | _ => none

/-- A width or precision, which a star takes from the arguments. -/
def takeSize (cs : List Char) (args : List Cell) : Nat × List Char × List Cell :=
  match cs with
  | '*' :: cs => (((args.headD .null).integer).natAbs, cs, args.drop 1)
  | cs => let (ds, cs) := Digits.take cs; (Digits.value ds, cs, args)

/-- A text with arguments put into it. The number bounds the steps. -/
def formatFrom : Nat → List Char → List Cell → List Char
  | 0, _, _ => []
  | _, [], _ => []
  | fuel + 1, c :: cs, args =>
    if c != '%' then c :: formatFrom fuel cs args
    else
      let (f, cs) := FormatSpec.takeFlags {} cs
      let (width, cs, args) := takeSize cs args
      let (precision, cs, args) :=
        match cs with
        | '.' :: cs => let (n, cs, args) := takeSize cs args; (some n, cs, args)
        | cs => (none, cs, args)
      let f := { f with width, precision }
      match cs.dropWhile (· == 'l') with
      | [] => ['%']
      | '%' :: cs => '%' :: formatFrom fuel cs args
      | letter :: cs =>
        match formatOne f letter (args.headD .null) with
        | some text => text ++ formatFrom fuel cs (args.drop 1)
        | none => []

/-- A text with arguments put into it. -/
def formatText (s : String) (args : List Cell) : String :=
  String.ofList (formatFrom (s.length + 1) s.toList args)

end RevisionLog.Sql
