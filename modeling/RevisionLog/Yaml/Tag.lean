import RevisionLog.Yaml.Cursor

/-!
# Tags and directives of a YAML document

A tag tells of what kind a value is. It is written as a handle and what follows it, and directives
in front of a document say what handles stand for.

* `readTag?` — a tag; `readDirective?` — a directive.
* `Tag.resolve?` — a tag whose handle is replaced by what it stands for.
* `Tag.kind?` — the kind that a tag of the language itself names.
-/

namespace RevisionLog.Yaml

/-! ## Characters -/

/-- Characters of words. -/
def isWordChar (c : Char) : Bool := c.isAlphanum || c == '-' || c == '_'

/-- Characters of addresses. -/
def isAddressChar (c : Char) : Bool :=
  c.isAlphanum || "-#;/?:@&=+$,_.!~*'()[]%".toList.contains c

/-- Characters of what follows a handle. -/
def isTagChar (c : Char) : Bool := isAddressChar c && !isFlow c && c != '!'

/-- A byte after a percent sign, and the rest. -/
def readByte? : List Char → Option (Nat × List Char)
  | '%' :: a :: b :: cs => do return (← Text.hexUnit '0' '0' a b, cs)
  | _ => none

/-- So many bytes that go on a character, put behind those in front of them. -/
def readBytes? : Nat → Nat → List Char → Option (Nat × List Char)
  | 0, n, cs => some (n, cs)
  | k + 1, n, cs => do
    let (b, cs) ← readByte? cs
    if b / 64 == 2 then readBytes? k (256 * n + b) cs else none

/-- A character written by its bytes, and the rest. The first byte tells how many there are, and the
character is the one whose number all of them write together. -/
def readBytewise? (cs : List Char) : Option (Char × List Char) := do
  let (b, cs) ← readByte? cs
  let more ←
    if b < 128 then some 0
    else if b < 192 then none
    else if b < 224 then some 1
    else if b < 240 then some 2
    else if b < 248 then some 3
    else none
  let (n, cs) ← readBytes? more b cs
  return (← Text.charOf n, cs)

/-- Characters of an address or a tag as far as they go, and the rest. The number bounds the
steps. -/
def readAddress? (fits : Char → Bool) : Nat → List Char → Option (List Char × List Char)
  | fuel + 1, c :: cs =>
    if !fits c then some ([], c :: cs)
    else if c == '%' then do
      let (x, rest) ← readBytewise? (c :: cs)
      Text.push x (readAddress? fits fuel rest)
    else Text.push c (readAddress? fits fuel cs)
  | _, cs => some ([], cs)

/-! ## Tags -/

/-- A tag. -/
structure Tag where
  handle : String
  suffix : String
deriving DecidableEq, Repr

/-- A tag, and the rest. -/
def readTag? (inFlow : Bool) (cs : List Char) : Option (Tag × List Char) := do
  let (tag, rest) ←
    match cs with
    | '!' :: '<' :: cs => do
      let (suffix, rest) ← readAddress? isAddressChar cs.length cs
      match rest with
      | '>' :: rest => some (⟨"", String.ofList suffix⟩, rest)
      | _ => none
    | '!' :: cs => do
      let word := cs.takeWhile isWordChar
      let (suffix, rest) ←
        match cs.drop word.length with
        | '!' :: rest => readAddress? isTagChar rest.length rest
        | rest => readAddress? isTagChar rest.length rest
      if (cs.drop word.length).head? == some '!' then
        if suffix.isEmpty then none
        else some (⟨String.ofList ('!' :: word ++ ['!']), String.ofList suffix⟩, rest)
      else if word.isEmpty && suffix.isEmpty then some (⟨"", "!"⟩, rest)
      else some (⟨"!", String.ofList (word ++ suffix)⟩, rest)
    | _ => none
  if endsWord rest || (inFlow && (rest.head?.map isFlow).getD false) then return (tag, rest)
  else none

namespace Tag

/-- The address in front of the kinds that the language itself has. -/
def core : String := "tag:yaml.org,2002:"

/-- The tag with what its handle stands for in place of the handle. A handle of its own has to be
declared. -/
def resolve? (handles : List (String × String)) (t : Tag) : Option Tag :=
  match handles.lookup t.handle with
  | some address => some { t with handle := address }
  | none =>
    if t.handle == "!!" then some { t with handle := core }
    else if 2 ≤ t.handle.length then none
    else some t

/-- The kind that a tag names, if the kind is one of the language itself. -/
def kind? (t : Tag) : Option String := if t.handle == core then some t.suffix else none

end Tag

/-! ## Directives -/

/-- What stands in front of a document. -/
inductive Directive
  /-- The version of the language. -/
  | version
  /-- What a handle stands for. -/
  | handle (name address : String)
deriving DecidableEq, Repr

/-- A part of a version's number after it, as the rest; it has one to nine digits. -/
def skipNumber? (cs : List Char) : Option (List Char) :=
  let n := (cs.takeWhile Char.isDigit).length
  if n == 0 || 9 < n then none else some (cs.drop n)

/-- The text without white space in front. -/
def skipBlanks (cs : List Char) : List Char := cs.dropWhile isBlank

/-- A handle and what it stands for, and the rest. -/
def readHandle? (cs : List Char) : Option (Directive × List Char) := do
  let (name, rest) ←
    match skipBlanks cs with
    | '!' :: cs =>
      let word := cs.takeWhile isWordChar
      match cs.drop word.length with
      | '!' :: rest => some ('!' :: word ++ ['!'], rest)
      | rest => if word.isEmpty then some (['!'], rest) else none
    | _ => none
  let rest := skipBlanks rest
  let (address, rest) ←
    match rest with
    | '!' :: rest => Text.push '!' (readAddress? isAddressChar rest.length rest)
    | c :: _ => if isTagChar c then readAddress? isAddressChar rest.length rest else none
    | [] => none
  if endsWord rest then
    return (.handle (String.ofList name) (String.ofList address), rest)
  else none

/-- A directive after its mark, and the rest. One of another name says nothing. -/
def readDirective? (cs : List Char) : Option (Directive × List Char) := do
  let name := cs.takeWhile isWordChar
  let rest := cs.drop name.length
  if name.isEmpty || !endsWord rest then none
  else if String.ofList name == "YAML" then
    match ← skipNumber? (skipBlanks rest) with
    | '.' :: rest => return (.version, ← skipNumber? rest)
    | _ => none
  else if String.ofList name == "TAG" then readHandle? rest
  else return (.handle "" "", rest.dropWhile fun c => !isBreak c)

end RevisionLog.Yaml
