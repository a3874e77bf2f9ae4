import RevisionLog.Json.Reader
import RevisionLog.Settings.Basic
import RevisionLog.Text.Reading

/-!
# Words of a TOML document

Readers take the text that is left and give back what they have read and what is left then.

* `Toml.readString` — strings in their four forms.
* `Toml.readMoment` — dates and times, which are settings in their normal form of writing.
* `Toml.readNumber` — integers and numbers with a fraction.
* `Toml.readKey` — a key, of one part or of several with dots between.
-/

namespace RevisionLog.Toml

/-! ## White space -/

/-- White space within a line. -/
def isBlank (c : Char) : Bool := c == ' ' || c == '\t'

/-- The text without the white space in front. -/
def skip (cs : List Char) : List Char := cs.dropWhile isBlank

/-- Characters other than the ends of lines that may stand as they are. -/
def isPlain (c : Char) : Bool := c == '\t' || (' ' ≤ c && c != '\x7f')

/-- The text after the end of a line. -/
def newline? : List Char → Option (List Char)
  | '\n' :: cs => some cs
  | '\r' :: '\n' :: cs => some cs
  | _ => none

/-- The text after a comment. -/
def skipComment : List Char → List Char
  | '#' :: cs => cs.dropWhile isPlain
  | cs => cs

/-- The text after the rest of a line that holds no more than a comment. -/
def endLine (cs : List Char) : Option (List Char) :=
  match skipComment (skip cs) with
  | [] => some []
  | cs => newline? cs

/-- The text without white space, ends of lines and comments in front. -/
def skipLines (inComment : Bool) : List Char → List Char
  | [] => []
  | '\n' :: cs => skipLines false cs
  | '\r' :: '\n' :: cs => skipLines false cs
  | c :: cs =>
    if inComment then if isPlain c then skipLines true cs else c :: cs
    else if isBlank c then skipLines false cs
    else if c == '#' then skipLines true cs
    else c :: cs

/-! ## Strings -/

/-- What stands for a character after a backslash. -/
def unescape : Char → Option Char
  | 'b' => some '\x08'
  | 't' => some '\t'
  | 'n' => some '\n'
  | 'f' => some '\x0c'
  | 'r' => some '\r'
  | '"' => some '"'
  | '\\' => some '\\'
  | _ => none

/-- The character that four hexadecimal digits name. -/
def charOf4 (a b c d : Char) : Option Char := do Text.charOf (← Text.hexUnit a b c d)

/-- The character that eight hexadecimal digits name. -/
def charOf8 (a b c d e f g h : Char) : Option Char := do
  Text.charOf (65536 * (← Text.hexUnit a b c d) + (← Text.hexUnit e f g h))

/-- The contents of a string of one line up to its closing quote, and the rest. -/
def basicBody : List Char → Option (List Char × List Char)
  | [] => none
  | '"' :: cs => some ([], cs)
  | '\\' :: 'u' :: a :: b :: c :: d :: cs => do Text.push (← charOf4 a b c d) (basicBody cs)
  | '\\' :: 'U' :: a :: b :: c :: d :: e :: f :: g :: h :: cs => do
    Text.push (← charOf8 a b c d e f g h) (basicBody cs)
  | '\\' :: e :: cs => do Text.push (← unescape e) (basicBody cs)
  | c :: cs => if isPlain c && c != '\\' then Text.push c (basicBody cs) else none

/-- The contents of a string of one line in which a backslash is a character like others. -/
def literalBody : List Char → Option (List Char × List Char)
  | [] => none
  | c :: cs =>
    if c == '\'' then some ([], cs) else if isPlain c then Text.push c (literalBody cs) else none

/-- The contents of a string of many lines up to its three closing quotes, before which one or two
more may stand. A backslash at the end of a line takes the white space after it away: `trim` tells
that this goes on. -/
def basicLines (trim : Bool) : List Char → Option (List Char × List Char)
  | [] => none
  | '"' :: '"' :: '"' :: '"' :: '"' :: cs => some (['"', '"'], cs)
  | '"' :: '"' :: '"' :: '"' :: cs => some (['"'], cs)
  | '"' :: '"' :: '"' :: cs => some ([], cs)
  | '\\' :: 'u' :: a :: b :: c :: d :: cs => do Text.push (← charOf4 a b c d) (basicLines false cs)
  | '\\' :: 'U' :: a :: b :: c :: d :: e :: f :: g :: h :: cs => do
    Text.push (← charOf8 a b c d e f g h) (basicLines false cs)
  | '\r' :: '\n' :: cs => if trim then basicLines true cs else Text.push '\n' (basicLines false cs)
  | '\\' :: cs =>
    match newline? (skip cs) with
    | some _ => basicLines true cs
    | none =>
      match cs with
      | e :: cs => do Text.push (← unescape e) (basicLines false cs)
      | [] => none
  | c :: cs =>
    if trim && (isBlank c || c == '\n') then basicLines true cs
    else if isPlain c || c == '\n' then Text.push c (basicLines false cs)
    else none

/-- As `basicLines`, but with a backslash as a character like others. -/
def literalLines : List Char → Option (List Char × List Char)
  | [] => none
  | '\'' :: '\'' :: '\'' :: '\'' :: '\'' :: cs => some (['\'', '\''], cs)
  | '\'' :: '\'' :: '\'' :: '\'' :: cs => some (['\''], cs)
  | '\'' :: '\'' :: '\'' :: cs => some ([], cs)
  | '\r' :: '\n' :: cs => Text.push '\n' (literalLines cs)
  | c :: cs => if isPlain c || c == '\n' then Text.push c (literalLines cs) else none

/-- The text without the end of a line that it begins with. -/
def skipNewline (cs : List Char) : List Char := (newline? cs).getD cs

/-- A string, and the rest. -/
def readString : List Char → Option (String × List Char)
  | '"' :: '"' :: '"' :: cs => (basicLines false (skipNewline cs)).map fun (s, r) => (.ofList s, r)
  | '\'' :: '\'' :: '\'' :: cs => (literalLines (skipNewline cs)).map fun (s, r) => (.ofList s, r)
  | '"' :: cs => (basicBody cs).map fun (s, r) => (.ofList s, r)
  | '\'' :: cs => (literalBody cs).map fun (s, r) => (.ofList s, r)
  | _ => none

/-! ## Dates and times -/

/-- Exactly `n` digits in front, as they stand, with a value within bounds. -/
def fixed (n lo hi : Nat) (cs : List Char) : Option (List Char × List Char) :=
  let ds := cs.take n
  if ds.length == n && ds.all Char.isDigit && lo ≤ Digits.value ds && Digits.value ds ≤ hi then
    some (ds, cs.drop n)
  else none

/-- A character that must come next. -/
def expect (c : Char) : List Char → Option (List Char)
  | d :: cs => if c == d then some cs else none
  | [] => none

/-- How many days a month has. -/
def daysIn (year month : Nat) : Nat :=
  if month == 2 then
    if year % 4 == 0 && (year % 100 != 0 || year % 400 == 0) then 29 else 28
  else if month == 4 || month == 6 || month == 9 || month == 11 then 30
  else 31

/-- A date written as `YYYY-MM-DD`, and the rest. -/
def readDate (cs : List Char) : Option (List Char × List Char) := do
  let (year, cs) ← fixed 4 0 9999 cs
  let (month, cs) ← fixed 2 1 12 (← expect '-' cs)
  let (day, cs) ←
    fixed 2 1 (daysIn (Digits.value year) (Digits.value month)) (← expect '-' cs)
  return (year ++ '-' :: month ++ '-' :: day, cs)

/-- The digits after the point of a time, to nine places and without zeros at the end. -/
def trimFraction (ds : List Char) : List Char :=
  match ((ds.take 9).reverse.dropWhile (· == '0')).reverse with
  | [] => []
  | ds => '.' :: ds

/-- A fraction of a second, if there is one, and the rest. -/
def readFraction (cs : List Char) : Option (List Char × List Char) :=
  match cs with
  | '.' :: rest =>
    let (ds, rest) := Digits.take rest
    if ds.isEmpty then none else some (trimFraction ds, rest)
  | cs => some ([], cs)

/-- A time written as `hh:mm:ss` with an optional fraction, and the rest. -/
def readTime (cs : List Char) : Option (List Char × List Char) := do
  let (hour, cs) ← fixed 2 0 23 cs
  let (minute, cs) ← fixed 2 0 59 (← expect ':' cs)
  let (second, cs) ← fixed 2 0 60 (← expect ':' cs)
  let (fraction, cs) ← readFraction cs
  return (hour ++ ':' :: minute ++ ':' :: second ++ fraction, cs)

/-- An offset written as `hh:mm` after a sign, and the rest. -/
def readShift (sign : Char) (cs : List Char) : Option (List Char × List Char) := do
  let (hour, cs) ← fixed 2 0 23 cs
  let (minute, cs) ← fixed 2 0 59 (← expect ':' cs)
  let zero := Digits.value (hour ++ minute) == 0
  return ((if zero then '+' else sign) :: hour ++ ':' :: minute, cs)

/-- The difference from universal time, if one is given, and the rest. -/
def readZone (cs : List Char) : Option (List Char × List Char) :=
  match cs with
  | 'Z' :: rest | 'z' :: rest => some (['Z'], rest)
  | '+' :: rest => readShift '+' rest
  | '-' :: rest => readShift '-' rest
  | cs => some ([], cs)

/-- A time stands in front: two digits of an hour, and a colon. -/
def startsTime (cs : List Char) : Bool :=
  match fixed 2 0 23 cs with
  | some (_, ':' :: _) => true
  | _ => false

/-- A date stands in front: four digits of a year, and a dash. -/
def startsDate (cs : List Char) : Bool :=
  match fixed 4 0 9999 cs with
  | some (_, '-' :: _) => true
  | _ => false

/-- What joins a date and its time. -/
def isJoint (c : Char) : Bool := c == 'T' || c == 't' || c == ' '

/-- A date, a time, or both with a zone; in the form that has a `T` between them. -/
def readMoment (cs : List Char) : Option (List Char × List Char) :=
  if startsTime cs then readTime cs
  else do
    let (date, rest) ← readDate cs
    match rest with
    | c :: cs =>
      if isJoint c && startsTime cs then
        let (time, cs) ← readTime cs
        let (zone, cs) ← readZone cs
        return (date ++ 'T' :: time ++ zone, cs)
      else return (date, c :: cs)
    | [] => return (date, [])

/-! ## Numbers -/

/-- Digits with single underscores between them, and the rest. -/
def digitRun (isDigit : Char → Bool) : List Char → List Char × List Char
  | [] => ([], [])
  | c :: cs =>
    if isDigit c then
      let (ds, rest) := digitRun isDigit cs
      (c :: ds, rest)
    else
      match c, cs with
      | '_', d :: rest =>
        if isDigit d then
          let (ds, rest) := digitRun isDigit rest
          (d :: ds, rest)
        else ([], c :: cs)
      | _, _ => ([], c :: cs)

/-- At least one digit, with underscores between digits, and the rest. -/
def readRun (isDigit : Char → Bool) (cs : List Char) : Option (List Char × List Char) :=
  match cs with
  | c :: _ => if isDigit c then some (digitRun isDigit cs) else none
  | [] => none

/-- Digits of a whole number: a zero stands alone. -/
def readWhole (cs : List Char) : Option (List Char × List Char) :=
  match cs with
  | '0' :: rest => some (['0'], rest)
  | cs => readRun Char.isDigit cs

/-- A digit to a base that is no more than 16. -/
def isDigitOf (base : Nat) (c : Char) : Bool :=
  match Text.hexValue c with
  | some d => d < base
  | none => false

/-- A natural to a base that is no more than 16. -/
def readBased (base : Nat) (cs : List Char) : Option (Setting × List Char) := do
  let (ds, rest) ← readRun (isDigitOf base) cs
  let n : Int := (ds.foldl (fun n d => base * n + (Text.hexValue d).getD 0) 0 : Nat)
  if n ≤ maxInt then some (.int n, rest) else none

/-- A point and digits, if there is a point, and the rest. -/
def readPlaces (cs : List Char) : Option (Option (List Char) × List Char) :=
  match cs with
  | '.' :: rest => (readRun Char.isDigit rest).map fun (ds, rest) => (some ds, rest)
  | cs => some (none, cs)

/-- An exponent, if there is one, and the rest. -/
def readPower (cs : List Char) : Option (Option Int × List Char) :=
  match cs with
  | c :: rest =>
    if c == 'e' || c == 'E' then
      let (negative, rest) := Digits.takeSign rest
      (readRun Char.isDigit rest).map fun (ds, rest) =>
        (some (Digits.signed negative (Digits.value ds)), rest)
    else some (none, cs)
  | [] => some (none, [])

/-- A number without its sign. A number beyond all numbers is refused, unless it is negative. -/
def readUnsigned (negative : Bool) (cs : List Char) : Option (Setting × List Char) := do
  let (whole, rest) ← readWhole cs
  let (places, rest) ← readPlaces rest
  let (power, rest) ← readPower rest
  match places, power with
  | none, none =>
    let i := Digits.signed negative (Digits.value whole)
    if minInt ≤ i && i ≤ maxInt then some (.int i, rest) else none
  | _, _ =>
    let places := places.getD []
    let r := Binary64.ofDecimal negative (Digits.value (whole ++ places))
      (power.getD 0 - places.length)
    if r == .infinite false then none else some (.real r, rest)

/-- A number, and the rest. -/
def readNumber (cs : List Char) : Option (Setting × List Char) :=
  match cs with
  | '0' :: 'x' :: rest => readBased 16 rest
  | '0' :: 'o' :: rest => readBased 8 rest
  | '0' :: 'b' :: rest => readBased 2 rest
  | cs =>
    let (negative, rest) := Digits.takeSign cs
    match rest with
    | 'i' :: 'n' :: 'f' :: rest => some (.real (.infinite negative), rest)
    | 'n' :: 'a' :: 'n' :: rest => some (.real .nan, rest)
    | rest => readUnsigned negative rest

/-! ## Keys -/

/-- Characters of a key without quotes. -/
def isBare (c : Char) : Bool := c.isAlphanum || c == '-' || c == '_'

/-- One part of a key, and the rest. -/
def readPart (cs : List Char) : Option (String × List Char) :=
  match cs with
  | '"' :: rest => (basicBody rest).map fun (s, r) => (.ofList s, r)
  | '\'' :: rest => (literalBody rest).map fun (s, r) => (.ofList s, r)
  | cs =>
    match cs.takeWhile isBare with
    | [] => none
    | s => some (.ofList s, cs.dropWhile isBare)

/-- The further parts of a key, each after a dot, and the rest. -/
def readParts : Nat → List Char → Option (List String × List Char)
  | 0, _ => none
  | fuel + 1, cs =>
    match skip cs with
    | '.' :: cs => do
      let (part, cs) ← readPart (skip cs)
      let (parts, cs) ← readParts fuel cs
      return (part :: parts, cs)
    | cs => some ([], cs)

/-- How many parts a key may have, and how deep values may stand in others, less one. -/
def maxNesting : Nat := 79

/-- A key as the way to its last part, and that part; white space around it is passed over. -/
def readKey (cs : List Char) : Option ((List String × String) × List Char) := do
  let (part, rest) ← readPart (skip cs)
  let (parts, rest) ← readParts (rest.length + 1) rest
  let all := part :: parts
  if maxNesting < all.length then none
  else return ((all.dropLast, all.getLast?.getD part), rest)

end RevisionLog.Toml
