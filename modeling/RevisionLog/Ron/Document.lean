import RevisionLog.Decimal.Numeral
import RevisionLog.Settings.Basic
import RevisionLog.Text.Reading

/-!
# RON documents

Values written as structures with named fields. The name of a structure counts nothing, and a value
that may be missing is written as `Some(value)` or `None`.

* `Ron.skip` — white space and comments.
* `Ron.readNumber`, `Ron.stringBody`, `Ron.readCharacter`, `Ron.readName` — the words of a document.
* `Ron.entries?` — the fields or members of a document that is a structure or a map; `none` is any
  other text.
-/

namespace RevisionLog.Ron

/-! ## White space -/

/-- White space. -/
def isBlank (c : Char) : Bool := c == ' ' || c == '\t' || c == '\n' || c == '\r'

/-- What a place between the words of a document belongs to. -/
inductive Place
  | space
  /-- A comment that goes to the end of its line. -/
  | line
  /-- A comment between marks, within so many others. -/
  | block (depth : Nat)

/-- The text without white space and comments in front, from a place on. -/
def skipFrom : Place → List Char → Option (List Char)
  | .space, '/' :: '/' :: cs => skipFrom .line cs
  | .space, '/' :: '*' :: cs => skipFrom (.block 0) cs
  | .space, c :: cs =>
    if isBlank c then skipFrom .space cs else if c == '/' then none else some (c :: cs)
  | .line, c :: cs => skipFrom (if c == '\n' then .space else .line) cs
  | .block depth, '/' :: '*' :: cs => skipFrom (.block (depth + 1)) cs
  | .block 0, '*' :: '/' :: cs => skipFrom .space cs
  | .block (depth + 1), '*' :: '/' :: cs => skipFrom (.block depth) cs
  | .block depth, _ :: cs => skipFrom (.block depth) cs
  | .block _, [] => none
  | _, [] => some []

/-- The text without white space and comments in front. -/
def skip (cs : List Char) : Option (List Char) := skipFrom .space cs

/-- The text without a comma in front; whether there was one comes first. -/
def skipComma (cs : List Char) : Option (Bool × List Char) := do
  match ← skip cs with
  | ',' :: cs => return (true, ← skip cs)
  | cs => return (false, cs)

/-! ## Names -/

/-- Characters that a name can begin with. -/
def startsName (c : Char) : Bool := c.isAlpha || c == '_'

/-- Characters that a name can go on with. -/
def continuesName (c : Char) : Bool := startsName c || c.isDigit

/-- Characters of a name that is marked as one. -/
def isMarkedName (c : Char) : Bool := continuesName c || c == '.' || c == '+' || c == '-'

/-- A name, and the rest. The mark `r#` in front lets it hold more characters than others, and
where such a character follows a name without the mark, there is no name. -/
def readName (cs : List Char) : Option (String × List Char) :=
  match cs with
  | 'r' :: '"' :: _ => none
  | 'r' :: '#' :: cs =>
    let name := cs.takeWhile isMarkedName
    if name.isEmpty then none else some (String.ofList name, cs.dropWhile isMarkedName)
  | cs =>
    let name := cs.takeWhile isMarkedName
    if (name.head?.map startsName).getD false && name.all continuesName then
      some (String.ofList name, cs.dropWhile isMarkedName)
    else none

/-- The rest after a word that stands as a whole. -/
def afterWord (word : String) (cs : List Char) : Option (List Char) :=
  (word.toList.isPrefixOf? cs).filter fun rest => !(rest.head?.map continuesName).getD false

/-! ## Numbers -/

/-- Characters of whole numbers. -/
def isWholeChar (c : Char) : Bool := (Text.hexValue c).isSome || c == '_'

/-- Characters of numbers with a point or an exponent. -/
def isRealChar (c : Char) : Bool :=
  c.isDigit || c == 'e' || c == 'E' || c == '+' || c == '-' || c == '.' || c == '_'

/-- The base of a whole number, and its digits with the rest. -/
def takeBase : List Char → Nat × List Char
  | '0' :: 'x' :: cs => (16, cs)
  | '0' :: 'o' :: cs => (8, cs)
  | '0' :: 'b' :: cs => (2, cs)
  | cs => (10, cs)

/-- The natural that digits to a base write; low lines between them count nothing. -/
def wholeOf (base : Nat) (ds : List Char) : Option Nat :=
  if ds.head? == some '_' then none else Text.natOfBase? base (ds.filter (· != '_'))

/-- The text begins with a sign. -/
def hasSign (cs : List Char) : Bool := cs.head? == some '-' || cs.head? == some '+'

/-- A whole number, and the rest. One with a sign is an integer of 64 bits, and one without is a
natural of 64 bits. -/
def readWhole (cs : List Char) : Option (Int × List Char) := do
  let (negative, body) := Digits.takeSign cs
  let (base, body) := takeBase body
  let i := Digits.signed negative (← wholeOf base (body.takeWhile isWholeChar))
  if minInt ≤ i && i ≤ (if hasSign cs then maxInt else maxNat) then
    some (i, body.dropWhile isWholeChar)
  else none

/-- A number with a point or an exponent, and the rest. -/
def readReal (cs : List Char) : Option (Binary64 × List Char) := do
  let ds := cs.takeWhile isRealChar
  if ds.contains '_' then none
  return (← Binary64.ofText? (String.ofList ds), cs.dropWhile isRealChar)

/-- A number, and the rest. A whole one that is too great is taken as any other. -/
def readNumber (cs : List Char) : Option (Setting × List Char) :=
  let body := if hasSign cs then cs.drop 1 else cs
  let real := (readReal cs).map fun (r, rest) => (Setting.real r, rest)
  if (body.takeWhile isWholeChar).length < (body.takeWhile isRealChar).length then real
  else
    match readWhole cs with
    | none => real
    | some (i, rest) =>
      if i ≤ maxInt then some (.int i, rest)
      else some (.real (Binary64.ofDecimal false i.toNat 0), rest)

/-! ## Text -/

/-- What stands for a character after a backslash, and the rest. -/
def readEscape : List Char → Option (Char × List Char)
  | '\'' :: cs => some ('\'', cs)
  | '"' :: cs => some ('"', cs)
  | '\\' :: cs => some ('\\', cs)
  | 'n' :: cs => some ('\n', cs)
  | 'r' :: cs => some ('\r', cs)
  | 't' :: cs => some ('\t', cs)
  | '0' :: cs => some ('\x00', cs)
  | 'x' :: a :: b :: cs => do return (Char.ofNat (← Text.hexUnit '0' '0' a b), cs)
  | 'u' :: '\x7b' :: cs =>
    let ds := cs.takeWhile fun c => (Text.hexValue c).isSome
    match cs.drop ds.length with
    | '\x7d' :: rest =>
      if 6 < ds.length then none
      else do return (← Text.charOf (← Text.natOfBase? 16 ds), rest)
    | _ => none
  | _ => none

/-- The contents of a string after its opening quote, and the rest; the number bounds how many
characters are read. -/
def stringBody : Nat → List Char → Option (List Char × List Char)
  | 0, _ | _, [] => none
  | _, '"' :: cs => some ([], cs)
  | fuel + 1, '\\' :: cs => do
    let (c, cs) ← readEscape cs
    Text.push c (stringBody fuel cs)
  | fuel + 1, c :: cs => Text.push c (stringBody fuel cs)

/-- The contents of a string without escapes up to a quote with so many marks behind it, and the
rest. -/
def verbatimBody (marks : Nat) : List Char → Option (List Char × List Char)
  | [] => none
  | c :: cs =>
    match (List.replicate marks '#').isPrefixOf? cs with
    | some rest => if c == '"' then some ([], rest) else Text.push c (verbatimBody marks cs)
    | none => Text.push c (verbatimBody marks cs)

/-- One character between single quotes, after the first of them, and the rest. -/
def readCharacter (cs : List Char) : Option (Char × List Char) := do
  let (c, cs) ←
    match cs with
    | '\\' :: cs => readEscape cs
    | '\'' :: _ | [] => none
    | c :: cs => some (c, cs)
  match cs with
  | '\'' :: cs => return (c, cs)
  | _ => none

/-- A string or a character, and the rest. -/
def readText (cs : List Char) : Option (String × List Char) :=
  match cs with
  | '"' :: cs => (stringBody (cs.length + 1) cs).map fun (s, rest) => (String.ofList s, rest)
  | '\'' :: cs => (readCharacter cs).map fun (c, rest) => (c.toString, rest)
  | 'r' :: cs =>
    let marks := (cs.takeWhile (· == '#')).length
    match cs.drop marks with
    | '"' :: cs => (verbatimBody marks cs).map fun (s, rest) => (String.ofList s, rest)
    | _ => none
  | _ => none

/-! ## Values -/

/-- What a document is made of. -/
inductive Value
  | single (s : Setting)
  | list
  | table (entries : List (String × Setting))

/-- A value as a setting. -/
def Value.setting : Value → Setting
  | single s => s
  | list | table _ => .group

/-- Words with a meaning of their own. -/
def words : List (String × Setting) :=
  [("true", .flag true), ("false", .flag false), ("None", .null), ("inf", .real (.infinite false)),
    ("-inf", .real (.infinite true)), ("NaN", .real .nan)]

/-- A value that is a word or the empty pair of brackets, and the rest. -/
def readWord (cs : List Char) : Option (Setting × List Char) :=
  match cs with
  | '(' :: ')' :: cs => some (.null, cs)
  | cs => words.findSome? fun (word, s) => (afterWord word cs).map fun rest => (s, rest)

/-- What stands in brackets is named: it begins with a name and a colon. -/
def isNamed (cs : List Char) : Option Bool :=
  match readName cs with
  | none => some false
  | some (_, rest) => do return (← skip rest).head? == some ':'

/-- Groups may be nested so deep. -/
def maxDepth : Nat := 128

/-- How deep groups may be nested within one more; `none` is too deep. -/
def below (depth : Nat) : Option Nat := if depth == 0 then none else some (depth - 1)

/-- The key of a field, or of a member if curly brackets close the group, and the rest. -/
def readKey (close : Char) (cs : List Char) : Option (String × List Char) :=
  if close == ')' then readName cs else readText cs

mutual

/-- A value, and the rest from its end. The numbers bound the groups that may still be opened and
the steps; `bare` tells that `Some` needs no brackets. -/
def readValue (bare : Bool) (depth : Nat) : Nat → List Char → Option (Value × List Char)
  | 0, _ => none
  | fuel + 1, cs =>
    match readWord cs, afterWord "Some" cs, readName cs with
    | some (s, rest), _, _ => some (.single s, rest)
    | none, some rest, _ => do
      let inner ← below depth
      match ← skip rest with
      | '(' :: rest =>
        let (value, rest) ← readValue bare inner fuel (← skip rest)
        match ← skipComma rest with
        | (_, ')' :: rest) => some (value, rest)
        | _ => none
      | rest => if bare then readValue bare inner fuel rest else none
    | none, none, some (_, rest) => do
      match ← skip rest with
      | '(' :: rest => readBrackets bare depth fuel (← skip rest)
      | rest => some (.single .null, rest)
    | none, none, none =>
      match cs with
      | '(' :: rest => do readBrackets bare depth fuel (← skip rest)
      | '[' :: rest => do
        return (.list, ← readItems bare (← below depth) ']' fuel (← skip rest))
      | '\x7b' :: rest => do
        let (entries, rest) ← readMembers bare (← below depth) '\x7d' fuel (← skip rest)
        return (.table entries, rest)
      | cs =>
        match readText cs with
        | some (s, rest) => some (.single (.text s), rest)
        | none => (readNumber cs).map fun (s, rest) => (.single s, rest)
termination_by structural fuel => fuel

/-- What stands in round brackets, after the first of them, and the rest. -/
def readBrackets (bare : Bool) (depth : Nat) : Nat → List Char → Option (Value × List Char)
  | 0, _ => none
  | fuel + 1, cs => do
    let inner ← below depth
    if ← isNamed cs then
      let (entries, rest) ← readMembers bare inner ')' fuel cs
      return (.table entries, rest)
    else return (.list, ← readItems bare inner ')' fuel cs)
termination_by structural fuel => fuel

/-- The rest after the items of a list. -/
def readItems (bare : Bool) (depth : Nat) (close : Char) : Nat → List Char → Option (List Char)
  | 0, _ => none
  | fuel + 1, cs =>
    if cs.head? == some close then some (cs.drop 1)
    else do
      let (_, rest) ← readValue bare depth fuel cs
      let (more, rest) ← skipComma rest
      if more || rest.head? == some close then readItems bare depth close fuel rest else none
termination_by structural fuel => fuel

/-- The fields of a structure or the members of a map, and the rest. -/
def readMembers (bare : Bool) (depth : Nat) (close : Char) :
    Nat → List Char → Option (List (String × Setting) × List Char)
  | 0, _ => none
  | fuel + 1, cs =>
    if cs.head? == some close then some ([], cs.drop 1)
    else do
      let (key, rest) ← readKey close cs
      match ← skip rest with
      | ':' :: rest =>
        let (value, rest) ← readValue bare depth fuel (← skip rest)
        let (more, rest) ← skipComma rest
        if more || rest.head? == some close then
          let (entries, rest) ← readMembers bare depth close fuel rest
          return ((key, value.setting) :: entries, rest)
        else none
      | _ => none
termination_by structural fuel => fuel

end

/-! ## Documents -/

/-- The rest after words with white space behind each. -/
def skipWords : List String → List Char → Option (List Char)
  | [], cs => some cs
  | word :: words, cs => do skipWords words (← skip (← word.toList.isPrefixOf? cs))

/-- Names of a list at the head of a document, and the rest. -/
def readNames : Nat → List Char → Option (List String × List Char)
  | 0, _ => none
  | fuel + 1, cs => do
    let (name, rest) ← readName cs
    let (more, rest) ← skipComma rest
    let goesOn := (rest.head?.map continuesName).getD false
    if goesOn && !more then none
    else if goesOn then do
      let (names, rest) ← readNames fuel rest
      return (name :: names, rest)
    else return ([name], rest)

/-- What may be turned on at the head of a document. -/
def features : List String := ["implicit_some", "unwrap_newtypes", "unwrap_variant_newtypes"]

/-- The names of what the head of a document turns on, and the rest. -/
def readHead : Nat → List Char → Option (List String × List Char)
  | 0, _ => none
  | fuel + 1, cs =>
    if cs.head? != some '#' then some ([], cs)
    else do
      let rest ← skipWords ["#", "!", "[", "enable", "("] cs
      let (names, rest) ← readNames rest.length rest
      let rest ← skipWords [")", "]"] rest
      if !names.all (features.contains ·) then none
      let (others, rest) ← readHead fuel rest
      return (names ++ others, rest)

/-- What a document gives under the names of its root. -/
def entries? (text : String) : Option (List (String × Setting)) := do
  let cs ← skip text.toList
  let (names, cs) ← readHead (cs.length + 1) cs
  let bare := names.contains "implicit_some"
  let (value, rest) ← readValue bare maxDepth (3 * cs.length + 3) cs
  match value, ← skip rest with
  | .table entries, [] => return entries
  | _, _ => none

end RevisionLog.Ron
