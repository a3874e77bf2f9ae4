import RevisionLog.Decimal.Numeral
import RevisionLog.Json.Reader
import RevisionLog.Settings.Basic
import RevisionLog.Text.Letter

/-!
# JSON5 documents

JSON as people write it: with comments, names without quotes, single quotes, a comma after the last
item and more ways to write numbers.

* `Json5.stringBody` — a string after its opening quote.
* `Json5.readNumber` — a number.
* `Json5.entries?` — the members of a document that is an object; `none` is any other text.
-/

namespace RevisionLog.Json5

/-! ## White space -/

/-- The end of a line. -/
def isLineEnd (c : Char) : Bool := c == '\n' || c == '\r' || c == '\u2028' || c == '\u2029'

/-- White space. -/
def isBlank (c : Char) : Bool :=
  isLineEnd c || c == '\t' || c == '\x0b' || c == '\x0c' || c == ' ' || c == '\u00a0' ||
    c == '\ufeff' || c == '\u1680' || ('\u2000' ≤ c && c ≤ '\u200a') || c == '\u202f' ||
    c == '\u205f' || c == '\u3000'

/-- What a place between the parts of a document belongs to. -/
inductive Place
  | space
  /-- A comment that goes to the end of its line. -/
  | line
  /-- A comment that goes to its closing mark. -/
  | block

/-- The text without white space and comments in front. -/
def skipFrom : Place → List Char → Option (List Char)
  | .space, '/' :: '/' :: cs => skipFrom .line cs
  | .space, '/' :: '*' :: cs => skipFrom .block cs
  | .space, c :: cs => if isBlank c then skipFrom .space cs else some (c :: cs)
  | .line, c :: cs => skipFrom (if isLineEnd c then .space else .line) cs
  | .block, '*' :: '/' :: cs => skipFrom .space cs
  | .block, _ :: cs => skipFrom .block cs
  | .block, [] => none
  | _, [] => some []

/-- The text without white space and comments in front. -/
def skip (cs : List Char) : Option (List Char) := skipFrom .space cs

/-! ## Strings -/

/-- What a character after a backslash stands for; those with a meaning of their own are left to
the reader of strings. -/
def unescape (c : Char) : Option Char :=
  match c with
  | 'b' => some '\x08'
  | 'f' => some '\x0c'
  | 'n' => some '\n'
  | 'r' => some '\r'
  | 't' => some '\t'
  | 'v' => some '\x0b'
  | '0' => some '\x00'
  | 'x' | 'u' => none
  | c => if c.isDigit then none else some c

/-- The character that two halves make. -/
def joined (high low : Nat) : Char := Char.ofNat (65536 + 1024 * (high - 0xd800) + (low - 0xdc00))

/-- The contents of a string up to its closing quote, and the rest. -/
def stringBody (quote : Char) : List Char → Option (List Char × List Char)
  | [] => none
  | '\\' :: 'x' :: a :: b :: cs => do
    Text.push (Char.ofNat (← Text.hexUnit '0' '0' a b)) (stringBody quote cs)
  | '\\' :: 'u' :: a :: b :: c :: d :: cs => do
    let n ← Text.hexUnit a b c d
    if Json.isLowHalf n then none
    else if Json.isHighHalf n then
      match cs with
      | '\\' :: 'u' :: e :: f :: g :: h :: cs =>
        let m ← Text.hexUnit e f g h
        if Json.isLowHalf m then Text.push (joined n m) (stringBody quote cs) else none
      | _ => none
    else Text.push (Char.ofNat n) (stringBody quote cs)
  | '\\' :: '\r' :: '\n' :: cs => stringBody quote cs
  | '\\' :: c :: cs =>
    if isLineEnd c then stringBody quote cs
    else do Text.push (← unescape c) (stringBody quote cs)
  | c :: cs =>
    if c == quote then some ([], cs)
    else if isLineEnd c || c == '\\' then none
    else Text.push c (stringBody quote cs)

/-! ## Names -/

/-- Characters that a name can begin with. -/
def startsName (c : Char) : Bool := c == '$' || c == '_' || Text.isLetter c

/-- Characters that a name can go on with. -/
def continuesName (c : Char) : Bool :=
  startsName c || Text.isMark c || c == '\u200c' || c == '\u200d'

/-- A character written by its number within a name, and the rest. A character beyond the first
65536 is written as two halves. -/
def readNumbered (cs : List Char) : Option (Char × List Char) :=
  match cs with
  | a :: b :: c :: d :: cs => do
    let n ← Text.hexUnit a b c d
    if Json.isLowHalf n then none
    else if Json.isHighHalf n then
      match cs with
      | '\\' :: 'u' :: e :: f :: g :: h :: cs =>
        let m ← Text.hexUnit e f g h
        if Json.isLowHalf m then some (joined n m, cs) else none
      | _ => none
    else some (Char.ofNat n, cs)
  | _ => none

/-- The rest of a name, and what is behind it. -/
def nameBody : Nat → List Char → Option (List Char × List Char)
  | 0, _ => none
  | fuel + 1, '\\' :: 'u' :: cs => do
    let (c, cs) ← readNumbered cs
    Text.push c (nameBody fuel cs)
  | fuel + 1, c :: cs =>
    if continuesName c then Text.push c (nameBody fuel cs) else some ([], c :: cs)
  | _, [] => some ([], [])

/-- A name, with or without quotes, and the rest. -/
def readName (cs : List Char) : Option (List Char × List Char) :=
  match cs with
  | '"' :: cs => stringBody '"' cs
  | '\'' :: cs => stringBody '\'' cs
  | c :: _ => if startsName c || c == '\\' then nameBody (cs.length + 1) cs else none
  | [] => none

/-! ## Numbers -/

/-- The greatest number that may be written in hexadecimal. -/
def maxHex : Nat := 4294967295

/-- Digits of a whole number, of which a zero stands alone, and the rest. -/
def takeWhole (cs : List Char) : List Char × List Char :=
  match cs with
  | '0' :: cs => (['0'], cs)
  | cs => Digits.take cs

/-- An exponent, if there is one, and the rest. -/
def takePower (cs : List Char) : Option Int × List Char :=
  match cs with
  | [] => (none, [])
  | c :: rest =>
    let (negative, rest) := Digits.takeSign rest
    let (ds, rest) := Digits.take rest
    if (c == 'e' || c == 'E') && !ds.isEmpty then
      (some (Digits.signed negative (Digits.value ds)), rest)
    else (none, cs)

/-- A decimal number, and the rest. An integer has to fit 64 bits, and any other number the range of
numbers. -/
def readDecimal (negative : Bool) (cs : List Char) : Option (Setting × List Char) :=
  let (whole, rest) := takeWhole cs
  let (fraction, rest) :=
    match rest with
    | '.' :: rest => let (ds, rest) := Digits.take rest; (some ds, rest)
    | rest => (none, rest)
  let (power, rest) := takePower rest
  if whole.isEmpty && (fraction.getD []).isEmpty then none
  else
    match fraction, power with
    | none, none =>
      let i := Digits.signed negative (Digits.value whole)
      if minInt ≤ i && i ≤ maxInt then some (.int i, rest) else none
    | fraction, power =>
      let ds := fraction.getD []
      let r := Binary64.ofDecimal negative (Digits.value (whole ++ ds))
        (power.getD 0 - ds.length)
      if r == .infinite negative then none else some (.real r, rest)

/-- A number in hexadecimal after its mark, and the rest. -/
def readHex (cs : List Char) : Option (Setting × List Char) := do
  let isDigit (c : Char) := (Text.hexValue c).isSome
  let n ← Text.natOfBase? 16 (cs.takeWhile isDigit)
  if maxHex < n then none else return (.int n, cs.dropWhile isDigit)

/-- A number, and the rest. Only decimal numbers take a plus, and hexadecimal ones no sign. -/
def readNumber (cs : List Char) : Option (Setting × List Char) :=
  let (negative, rest) := Digits.takeSign cs
  let hasPlus := cs.head? == some '+'
  match rest with
  | 'I' :: 'n' :: 'f' :: 'i' :: 'n' :: 'i' :: 't' :: 'y' :: rest =>
    if hasPlus then none else some (.real (.infinite negative), rest)
  | 'N' :: 'a' :: 'N' :: rest => if hasPlus then none else some (.real .nan, rest)
  | '0' :: x :: rest =>
    if x == 'x' || x == 'X' then if hasPlus || negative then none else readHex rest
    else readDecimal negative ('0' :: x :: rest)
  | rest => readDecimal negative rest

/-! ## Values -/

/-- A word with a meaning of its own, and the rest. -/
def readWord (cs : List Char) : Option (Setting × List Char) :=
  match cs with
  | 'n' :: 'u' :: 'l' :: 'l' :: cs => some (.null, cs)
  | 't' :: 'r' :: 'u' :: 'e' :: cs => some (.flag true, cs)
  | 'f' :: 'a' :: 'l' :: 's' :: 'e' :: cs => some (.flag false, cs)
  | _ => none

/-- A string, a word or a number, and the rest. -/
def readScalar (cs : List Char) : Option (Setting × List Char) :=
  match cs with
  | '"' :: cs => (stringBody '"' cs).map fun (s, rest) => (.text (String.ofList s), rest)
  | '\'' :: cs => (stringBody '\'' cs).map fun (s, rest) => (.text (String.ofList s), rest)
  | cs => (readWord cs).or (readNumber cs)

mutual

/-- A value, and the rest from its end. -/
def readValue : Nat → List Char → Option (Setting × List Char)
  | 0, _ => none
  | fuel + 1, cs =>
    match cs with
    | '[' :: cs => do return (.group, ← readItems fuel (← skip cs))
    | '\x7b' :: cs => do return (.group, (← readMembers fuel (← skip cs)).2)
    | cs => readScalar cs

/-- The rest after the items of a list. -/
def readItems : Nat → List Char → Option (List Char)
  | 0, _ => none
  | fuel + 1, cs =>
    match cs with
    | ']' :: cs => some cs
    | cs => do
      let (_, rest) ← readValue fuel cs
      match ← skip rest with
      | ',' :: rest => readItems fuel (← skip rest)
      | ']' :: rest => some rest
      | _ => none

/-- The members of an object, and the rest. -/
def readMembers : Nat → List Char → Option (List (String × Setting) × List Char)
  | 0, _ => none
  | fuel + 1, cs =>
    match cs with
    | '\x7d' :: cs => some ([], cs)
    | cs => do
      let (name, rest) ← readName cs
      match ← skip rest with
      | ':' :: rest =>
        let (value, rest) ← readValue fuel (← skip rest)
        let entry := (String.ofList name, value)
        match ← skip rest with
        | ',' :: rest => do
          let (entries, rest) ← readMembers fuel (← skip rest)
          return (entry :: entries, rest)
        | '\x7d' :: rest => some ([entry], rest)
        | _ => none
      | _ => none

end

/-- What a document gives under the names of its root. -/
def entries? (text : String) : Option (List (String × Setting)) := do
  match ← skip text.toList with
  | '\x7b' :: cs =>
    let (entries, rest) ← readMembers (2 * cs.length + 2) (← skip cs)
    if (← skip rest).isEmpty then return entries else none
  | _ => none

end RevisionLog.Json5
