import RevisionLog.Yaml.Scalar
import RevisionLog.Yaml.Tag

/-!
# Tokens of a YAML document

A document is read as tokens that tell where blocks begin and end. Whether a word is a key shows
only at the colon behind it, so a place that may turn out to be one is kept as a `Candidate`, and
the tokens that a key needs are put in front of it later.

* `Token` — the tokens.
* `Scanner` — what has been read so far.
* `Token.ofText?` — the tokens of a text.
-/

namespace RevisionLog.Yaml

/-- What a document is read as. -/
inductive Token
  | directive (d : Directive)
  | documentStart
  | documentEnd
  | listBlock
  | mapBlock
  /-- The end of a block. -/
  | blockEnd
  | listOpen
  | listClose
  | mapOpen
  | mapClose
  /-- An item of a block. -/
  | item
  | comma
  | key
  | value
  | reference (name : String)
  | anchor (name : String)
  | tag (t : Tag)
  /-- A text, `plain` if it stands without any marks. -/
  | scalar (plain : Bool) (text : String)
deriving DecidableEq, Repr

/-- An indentation that a deeper one has taken the place of. -/
structure Level where
  /-- The column of the outer one. -/
  column : Int
  /-- The deeper one is a block. -/
  isBlock : Bool

/-- A place that may turn out to be a key. -/
structure Candidate where
  line : Nat
  index : Nat
  column : Nat
  /-- How many tokens are in front. -/
  number : Nat
  /-- There has to be a key here. -/
  required : Bool

/-- What has been read of a document. -/
structure Scanner where
  cursor : Cursor
  /-- The tokens so far, the last one first. -/
  tokens : List Token := []
  /-- The column of the innermost block, or the one that its values have to reach. -/
  indent : Int := -1
  /-- The indentations around that. -/
  outer : List Level := []
  /-- How many brackets are open. -/
  depth : Nat := 0
  /-- A key may stand here. -/
  keyAllowed : Bool := true
  /-- What may turn out to be a key, within each open bracket and outside of all. -/
  candidates : List (Option Candidate) := [none]
  /-- Where a colon may follow without white space behind it. -/
  colonAt : Nat := 0
  /-- For each open list, that a pair without brackets is open in it. -/
  pairs : List Bool := []
  /-- Keys within brackets belong to a map that is open. -/
  inMap : Bool := false

namespace Scanner

/-- Some brackets are open. -/
def inFlow (s : Scanner) : Bool := 0 < s.depth

/-- One more token. -/
def push (t : Token) (s : Scanner) : Scanner := { s with tokens := t :: s.tokens }

/-- One more token, behind the first `n`. -/
def insert (n : Nat) (t : Token) (s : Scanner) : Scanner :=
  let later := s.tokens.length - n
  { s with tokens := s.tokens.take later ++ t :: s.tokens.drop later }

/-- Later on the text. -/
def move (c : Cursor) (s : Scanner) : Scanner := { s with cursor := c }

/-! ## Indentation -/

/-- The indentation once those beyond a column are left, and how many blocks end by that. -/
def leave (column : Int) : Int → List Level → Int × List Level × Nat
  | indent, [] => (indent, [], 0)
  | indent, l :: ls =>
    if column < indent then
      let (indent, outer, n) := leave column l.column ls
      (indent, outer, n + l.isBlock.toNat)
    else (indent, l :: ls, 0)

/-- Blocks that begin beyond a column end here. -/
def unroll (column : Int) (s : Scanner) : Scanner :=
  if s.inFlow then s
  else
    let (indent, outer, n) := leave column s.indent s.outer
    { s with indent, outer, tokens := List.replicate n .blockEnd ++ s.tokens }

/-- A block begins in a column unless one has begun there; its token stands behind the first `n`. -/
def roll (column n : Nat) (t : Token) (s : Scanner) : Scanner :=
  if s.inFlow then s
  else
    let (indent, outer) :=
      match s.outer with
      | ⟨outer, false⟩ :: ls => if s.indent ≤ column then (outer, ls) else (s.indent, s.outer)
      | ls => (s.indent, ls)
    if indent < column then
      { s with indent := column, outer := ⟨indent, true⟩ :: outer }.insert n t
    else { s with indent, outer }

/-- What follows has to stand beyond the column of the block. -/
def rollColumn (s : Scanner) : Scanner :=
  match s.outer with
  | ⟨_, true⟩ :: _ =>
    if s.inFlow then s
    else { s with indent := s.indent + 1, outer := ⟨s.indent, false⟩ :: s.outer }
  | _ => s

/-- The indentation of the innermost block, and those around it. -/
def blockLevel : Int → List Level → Int × List Level
  | _, ⟨column, false⟩ :: ls => blockLevel column ls
  | indent, ls => (indent, ls)

/-- The column is again that of the block. -/
def unrollColumns (s : Scanner) : Scanner :=
  let (indent, outer) := blockLevel s.indent s.outer
  { s with indent, outer }

/-! ## Keys -/

/-- What comes next may turn out to be a key. -/
def saveKey (s : Scanner) : Scanner :=
  if !s.keyAllowed then s
  else
    let isBlock := (s.outer.head?.map (·.isBlock)).getD false
    let required := !s.inFlow && s.indent == s.cursor.column && isBlock
    let candidate : Candidate :=
      ⟨s.cursor.line, s.cursor.index, s.cursor.column, s.tokens.length, required⟩
    { s with candidates := some candidate :: s.candidates.drop 1 }

/-- What may turn out to be a key here. -/
def candidate? (s : Scanner) : Option Candidate := s.candidates.head?.bind id

/-- What might have turned out to be a key is none, which it must not be if it has to be one. -/
def dropKey? (s : Scanner) : Option Scanner :=
  if (s.candidate?.map (·.required)).getD false then none
  else some { s with candidates := none :: s.candidates.drop 1 }

/-- Keys outside of brackets are so long at the most. -/
def maxKeyLength : Nat := 1024

/-- What might have turned out to be a key is too far away by now. -/
def isStale (s : Scanner) (k : Candidate) : Bool :=
  !s.inFlow && (k.line < s.cursor.line || k.index + maxKeyLength < s.cursor.index)

/-- What is too far away to be a key is none. -/
def dropStale? (s : Scanner) : Option Scanner :=
  if s.candidates.any fun k => (k.map fun k => k.required && s.isStale k).getD false then none
  else some { s with candidates := s.candidates.map fun k => k.filter fun k => !s.isStale k }

/-- A key may stand here or not. -/
def allowKey (b : Bool) (s : Scanner) : Scanner := { s with keyAllowed := b }

/-! ## White space -/

/-- The place after white space and comments, and whether a line has ended in it. Tabs that stand
for an indentation are refused in front of text. The number bounds the steps. -/
def readSpace? (inBlock : Bool) (indent : Int) : Nat → Cursor → Option (Bool × Cursor)
  | 0, c => some (false, c)
  | fuel + 1, c =>
    match c.rest with
    | [] => some (false, c)
    | x :: _ =>
      if x == '\t' && inBlock && c.fresh && c.column < indent then do
        let c ← c.skipLine?
        if endsLine c.rest then readSpace? inBlock indent fuel c else none
      else if isBlank x then readSpace? inBlock indent fuel (c.blanks 1)
      else if isBreak x then do return (true, (← readSpace? inBlock indent fuel c.newline).2)
      else if x == '#' then readSpace? inBlock indent fuel c.toBreak
      else some (false, c)

/-- On to the next token. -/
def skip? (s : Scanner) : Option Scanner := do
  let (ended, c) ← readSpace? (!s.outer.isEmpty) s.indent s.cursor.rest.length s.cursor
  return { s with cursor := c, keyAllowed := s.keyAllowed || (ended && !s.inFlow) }

/-- The place after white space other than tabs, and comments. The number bounds the steps. -/
def skipSpaces : Nat → Cursor → Cursor
  | 0, c => c
  | fuel + 1, c =>
    match c.rest with
    | ' ' :: _ => skipSpaces fuel (c.blanks 1)
    | '#' :: _ => skipSpaces fuel c.toBreak
    | '\n' :: _ | '\r' :: _ => skipSpaces fuel c.newline
    | _ => c

/-! ## Tokens of one character -/

/-- Past some characters, and the white space and the comment behind. -/
def pass? (n : Nat) (s : Scanner) : Option Scanner := do
  return s.move (← (s.cursor.advance n).skipLine?)

/-- A pair without brackets that is open in the innermost list ends here. -/
def closePair (s : Scanner) : Scanner :=
  match s.pairs with
  | true :: pairs => { s with pairs := false :: pairs, inMap := false }.push .mapClose
  | _ => s

/-- So many brackets may be open at the most. -/
def maxDepth : Nat := 255

/-- An opening bracket. -/
def openBracket? (isList : Bool) (s : Scanner) : Option Scanner := do
  let s := s.saveKey.rollColumn
  if s.depth == maxDepth then none
  else
    let s := { s with
      depth := s.depth + 1
      candidates := none :: s.candidates
      keyAllowed := true
      pairs := if isList then false :: s.pairs else s.pairs
      inMap := s.inMap || !isList }
    return (← s.pass? 1).push (if isList then .listOpen else .mapOpen)

/-- A closing bracket. -/
def closeBracket? (isList : Bool) (s : Scanner) : Option Scanner := do
  let s ← s.dropKey?
  let s := if s.inFlow then { s with candidates := s.candidates.drop 1 } else s
  let s := { s with depth := s.depth - 1, keyAllowed := false }
  let s := if isList then s.closePair else s
  let s := if isList then { s with pairs := s.pairs.drop 1 } else s
  let s ← s.pass? 1
  let s := if s.inFlow then { s with colonAt := s.cursor.index } else s
  return s.push (if isList then .listClose else .mapClose)

/-- A comma. -/
def comma? (s : Scanner) : Option Scanner := do
  let s := ((← s.dropKey?).allowKey true).closePair
  return (← s.pass? 1).push .comma

/-- The mark of an item. White space with a tab in it may not stand between two of them. -/
def item? (s : Scanner) : Option Scanner := do
  if s.inFlow || !s.keyAllowed then none
  else
    let column := s.cursor.column
    let behind := s.cursor.advance 1
    let tabs := (behind.rest.takeWhile isBlank).contains '\t'
    let s ← (s.roll column s.tokens.length .listBlock).pass? 1
    let next := s.cursor.rest
    if tabs && next.head? == some '-' && endsWord (next.drop 1) then none
    else
      let ends := (next.head?.map fun c => isBreak c || isFlow c).getD false
      let s := if ends then s.rollColumn else s
      return ((← s.dropKey?).allowKey true).push .item

/-- The mark of a key. -/
def key? (s : Scanner) : Option Scanner := do
  if !s.inFlow && !s.keyAllowed then none
  else
    let s :=
      if s.inFlow then { s with inMap := true }
      else s.roll s.cursor.column s.tokens.length .mapBlock
    let s ← s.dropKey?
    let behind := s.cursor.advance 1
    let c := skipSpaces behind.rest.length behind
    if c.index == behind.index || c.rest.head? == some '\t' then none
    else return ((s.move c).allowKey !s.inFlow).push .key

/-- White space that begins with a tab and holds no blank may not stand between a colon and a
word. -/
def badTabs (cs : List Char) : Bool :=
  let blanks := cs.takeWhile isBlank
  let next := (cs.drop blanks.length).head?
  blanks.head? == some '\t' && !blanks.contains ' ' &&
    (next == some '-' || (next.map isWordChar).getD false)

/-- The mark of a value. What may turn out to be a key in front of it is one. -/
def value? (s : Scanner) : Option Scanner := do
  let isPair := !s.pairs.isEmpty && !s.inMap
  let line := s.cursor.line
  let column := s.cursor.column
  let candidate := s.candidate?
  let s := if isPair then { s with pairs := true :: s.pairs.drop 1 } else s
  let behind := s.cursor.advance 1
  if badTabs behind.rest then none
  else
    let c ← if behind.rest.head? == some '\t' then behind.skipLine? else some behind
    let s := s.move c
    match candidate with
    | some k =>
      if isPair && k.line < line then none
      else
        let s := s.insert k.number .key
        let s := if isPair then s.insert k.number .mapOpen else s
        let s := (s.roll k.column k.number .mapBlock).rollColumn
        return ({ s with candidates := none :: s.candidates.drop 1 }.allowKey false).push .value
    | none =>
      let s := if isPair then s.push .mapOpen else s
      if s.inFlow then return (s.allowKey false).push .value
      else if !s.keyAllowed then none
      else
        let s := (s.roll column s.tokens.length .mapBlock).rollColumn
        return (s.allowKey true).push .value

/-! ## Longer tokens -/

/-- The mark of a document. -/
def mark? (t : Token) (s : Scanner) : Option Scanner := do
  let s := ((← (s.unroll (-1)).dropKey?).allowKey false).push t
  let s := s.move (s.cursor.advance 3)
  if t == .documentEnd then
    let c ← s.cursor.skipLine?
    if endsLine c.rest then return s.move c else none
  else return s

/-- A directive. -/
def directive? (s : Scanner) : Option Scanner := do
  let s := (← (s.unroll (-1)).dropKey?).allowKey false
  let c := s.cursor.advance 1
  let (d, rest) ← readDirective? c.rest
  let c ← (c.upTo rest).skipLine?
  if !endsLine c.rest then none
  else return (s.move (if c.rest.isEmpty then c else c.newline)).push (.directive d)

/-- Characters of names. -/
def isNameChar (c : Char) : Bool := !isBlank c && !isBreak c && !isFlow c && c != '\ufeff'

/-- A name after its mark. -/
def name? (token : String → Token) (s : Scanner) : Option Scanner :=
  let s := s.saveKey.allowKey false
  let c := s.cursor.advance 1
  let name := c.rest.takeWhile isNameChar
  if name.isEmpty then none
  else some ((s.move (c.advance name.length)).push (token (String.ofList name)))

/-- A tag. -/
def tag? (s : Scanner) : Option Scanner := do
  let s := s.saveKey.allowKey false
  let (t, rest) ← readTag? s.inFlow s.cursor.rest
  return (s.move (s.cursor.upTo rest)).push (.tag t)

/-- A text in quotes. Within brackets a colon may follow it without white space behind. -/
def quoted? (quote : Char) (s : Scanner) : Option Scanner := do
  let s := s.saveKey.allowKey false
  let (text, c) ← readQuoted? quote s.inFlow s.indent (s.cursor.advance 1)
  let s ← (s.move c).skip?
  return { s with colonAt := s.cursor.index }.push (.scalar false (String.ofList text))

/-- A text without quotes. Where it ends with the end of a line a key may follow. -/
def plain? (s : Scanner) : Option Scanner := do
  let s := (s.saveKey.allowKey false).unrollColumns
  let (text, c) ← readPlain? s.inFlow (s.indent + 1) s.cursor
  let s := if c.fresh then s.allowKey true else s
  return (s.move c).push (.scalar true (String.ofList text))

/-- A block of lines. -/
def block? (literal : Bool) (s : Scanner) : Option Scanner := do
  let s := (s.saveKey.allowKey true).unrollColumns
  let (text, c) ← readBlock? literal s.indent (s.cursor.advance 1)
  return (s.move c).push (.scalar false (String.ofList text))

/-- The colon at this place is the mark of a value, by what is behind it. -/
def isValueMark (s : Scanner) (cs : List Char) : Bool :=
  endsWord cs ||
    (s.inFlow && ((cs.head?.map isFlow).getD false || s.cursor.index == s.colonAt))

/-- The next token, from its first character on. -/
def next? (s : Scanner) : Option Scanner :=
  match s.cursor.rest with
  | [] => none
  | x :: xs =>
    if s.cursor.column == 0 && x == '%' then s.directive?
    else if s.cursor.atMark '-' then s.mark? .documentStart
    else if s.cursor.atMark '.' then s.mark? .documentEnd
    else if s.cursor.column < s.indent then none
    else if x == '[' then s.openBracket? true
    else if x == '\x7b' then s.openBracket? false
    else if x == ']' then s.closeBracket? true
    else if x == '\x7d' then s.closeBracket? false
    else if x == ',' then s.comma?
    else if x == '-' && endsWord xs then s.item?
    else if x == '?' && endsWord xs then s.key?
    else if x == ':' && s.isValueMark xs then s.value?
    else if x == '*' then s.name? .reference
    else if x == '&' then s.name? .anchor
    else if x == '!' then s.tag?
    else if (x == '|' || x == '>') && !s.inFlow then s.block? (x == '|')
    else if x == '\'' || x == '"' then s.quoted? x
    else if x == '%' || x == '@' || x == '\x60' then none
    else s.plain?

/-- The tokens up to the end of the text. The number bounds the steps. -/
def run? : Nat → Scanner → Option (List Token)
  | 0, _ => none
  | fuel + 1, s => do
    let s ← (← s.skip?).dropStale?
    let s := s.unroll s.cursor.column
    if !s.cursor.rest.isEmpty then run? fuel (← s.next?)
    else if s.candidates.any fun k => (k.map (·.required)).getD false then none
    else return (s.unroll (-1)).tokens.reverse

end Scanner

/-- The tokens of a text. -/
def Token.ofText? (text : String) : Option (List Token) :=
  let c := Cursor.ofText text
  Scanner.run? (c.rest.length + 1) { cursor := c }

end RevisionLog.Yaml
