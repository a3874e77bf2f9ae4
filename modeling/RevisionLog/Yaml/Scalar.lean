import RevisionLog.Yaml.Cursor

/-!
# Scalars of a YAML document

Texts in quotes, texts without, and blocks of lines. Where a scalar goes over many lines, `indent`
is the column that its lines have to reach.

* `readQuoted?` — a text in quotes, after the first of them.
* `readPlain?` — a text without quotes.
* `readBlock?` — a block of lines, after the mark that begins it.
-/

namespace RevisionLog.Yaml

/-! ## Ends of lines within a text -/

/-- What stands for white space and ends of lines within a text: one end of a line is a blank, and
of more the first counts nothing; after an escaped end each counts. -/
def fold (escaped : Bool) (breaks : Nat) (blanks : List Char) : List Char :=
  if escaped then List.replicate breaks '\n'
  else
    match breaks with
    | 0 => blanks
    | 1 => [' ']
    | n + 2 => List.replicate (n + 1) '\n'

/-- How many lines end within white space, and the place after it. A tab may not stand in front of
the column that lines have to reach; if `lenient`, it may on a line that holds no text. The number
in front bounds the steps, and `begun` tells that a line has begun. -/
def readGap? (lenient : Bool) (indent : Int) : Nat → Bool → Cursor → Option (Nat × Cursor)
  | 0, _, c => some (0, c)
  | fuel + 1, begun, c =>
    match c.rest with
    | [] => some (0, c)
    | x :: _ =>
      if isBreak x then
        (readGap? lenient indent fuel true c.newline).map fun (n, c) => (n + 1, c)
      else if !isBlank x then some (0, c)
      else if begun && x == '\t' && c.column < indent then do
        let c ← if lenient then c.skipLine? else none
        if endsLine c.rest then readGap? lenient indent fuel begun c else none
      else readGap? lenient indent fuel begun (c.blanks 1)

/-! ## Text in quotes -/

/-- Characters that stand for another after a backslash. -/
def escapes : List (Char × Char) :=
  [('0', '\x00'), ('a', '\x07'), ('b', '\x08'), ('t', '\t'), ('\t', '\t'), ('n', '\n'),
    ('v', '\x0b'), ('f', '\x0c'), ('r', '\r'), ('e', '\x1b'), (' ', ' '), ('"', '"'), ('/', '/'),
    ('\\', '\\'), ('N', '\u0085'), ('_', '\u00a0'), ('L', '\u2028'), ('P', '\u2029')]

/-- The character that stands after a backslash, and how many characters write it. -/
def escape? : List Char → Option (Char × Nat)
  | 'x' :: a :: b :: _ => do return (← Text.charOf (← Text.hexUnit '0' '0' a b), 3)
  | 'u' :: a :: b :: c :: d :: _ => do return (← Text.charOf (← Text.hexUnit a b c d), 5)
  | 'U' :: a :: b :: c :: d :: e :: f :: g :: h :: _ => do
    return (← Text.charOf (65536 * (← Text.hexUnit a b c d) + (← Text.hexUnit e f g h)), 9)
  | c :: _ => (escapes.lookup c).map fun x => (x, 1)
  | [] => none

/-- The characters up to white space, the closing quote or an escaped end of a line, whether there
was that end, and the place after them. The number bounds the steps. -/
def readWord? (quote : Char) : Nat → Cursor → Option (List Char × Bool × Cursor)
  | 0, c => some ([], false, c)
  | fuel + 1, c =>
    let go (x : Char) (n : Nat) : Option (List Char × Bool × Cursor) :=
      (readWord? quote fuel (c.advance n)).map fun (xs, more) => (x :: xs, more)
    match c.rest with
    | [] => some ([], false, c)
    | x :: xs =>
      if isBlank x || isBreak x then some ([], false, c)
      else if quote == '\'' then
        if x != quote then go x 1
        else if xs.head? == some quote then go x 2
        else some ([], false, c)
      else if x == quote then some ([], false, c)
      else if x != '\\' then go x 1
      else if (xs.head?.map isBreak).getD false then some ([], true, (c.advance 1).newline)
      else do
        let (y, n) ← escape? xs
        go y (n + 1)

/-- A text up to its closing quote, and the place after that. The number bounds the steps. -/
def readQuotedBody? (quote : Char) (indent : Int) : Nat → Cursor → Option (List Char × Cursor)
  | 0, _ => none
  | fuel + 1, c =>
    if c.atMarks || c.rest.isEmpty || c.column < indent then none
    else do
      let (word, escaped, c) ← readWord? quote c.rest.length c
      if c.rest.head? == some quote then return (word, c.advance 1)
      else
        let blanks := c.rest.takeWhile isBlank
        let (breaks, c) ← readGap? false indent c.rest.length escaped c
        let (text, c) ← readQuotedBody? quote indent fuel c
        return (word ++ fold escaped breaks blanks ++ text, c)

/-- What may follow a text in quotes: the end of a line, a colon on the line on which it began, or
within brackets a mark. -/
def followsQuoted (inFlow sameLine : Bool) (cs : List Char) : Bool :=
  match cs with
  | ':' :: _ => inFlow || sameLine
  | c :: _ => isBreak c || (inFlow && (c == ',' || c == ']' || c == '\x7d'))
  | [] => true

/-- A text in quotes after the first of them, and the place after it and the white space behind. -/
def readQuoted? (quote : Char) (inFlow : Bool) (indent : Int) (c : Cursor) :
    Option (List Char × Cursor) := do
  let (text, next) ← readQuotedBody? quote indent (c.rest.length + 1) c
  let next ← next.skipLine?
  if followsQuoted inFlow (c.line == next.line) next.rest then return (text, next) else none

/-! ## Text without quotes -/

/-- A word of a text without quotes, which a colon at the end of a word ends too. -/
def plainWord (inFlow : Bool) : List Char → List Char
  | [] => []
  | c :: cs =>
    let ends := endsWord cs || (inFlow && (cs.head?.map isFlow).getD false)
    if isBlank c || isBreak c || (inFlow && isFlow c) || (c == ':' && ends) then []
    else c :: plainWord inFlow cs

/-- The rest of a text without quotes, and the place after it and the white space behind. The
number bounds the steps. -/
def readPlainBody? (inFlow : Bool) (indent : Int) : Nat → Cursor → Option (List Char × Cursor)
  | 0, _ => none
  | fuel + 1, c =>
    if c.atMarks || c.rest.head? == some '#' then some ([], c)
    else if inFlow && c.rest.head? == some '-' && ((c.rest.drop 1).head?.map isFlow).getD false then
      none
    else
      let word := plainWord inFlow c.rest
      let c := c.advance word.length
      if c.rest.isEmpty || !endsWord c.rest then some (word, c)
      else do
        let blanks := c.rest.takeWhile isBlank
        let (breaks, c) ← readGap? true indent c.rest.length c.fresh c
        if !inFlow && c.column < indent then return (word, c)
        else
          let (text, c) ← readPlainBody? inFlow indent fuel c
          return (word ++ (if text.isEmpty then [] else fold false breaks blanks) ++ text, c)

/-- A text without quotes, and the place after it. -/
def readPlain? (inFlow : Bool) (indent : Int) (c : Cursor) : Option (List Char × Cursor) :=
  if inFlow && c.column < indent then none
  else readPlainBody? inFlow indent (c.rest.length + 1) c

/-! ## Blocks of lines -/

/-- What becomes of the ends of lines at the end of a block. -/
inductive Chomping
  /-- All are dropped. -/
  | strip
  /-- One is kept. -/
  | clip
  /-- All are kept. -/
  | keep
deriving DecidableEq, Repr

/-- What a sign behind the mark of a block asks for. -/
def Chomping.ofSign? : Char → Option Chomping
  | '-' => some strip
  | '+' => some keep
  | _ => none

/-- The sign and the digit behind the mark of a block, in either order, and how many characters
they are; no digit is a zero, and a written zero is none. -/
def blockHeader? (cs : List Char) : Option (Chomping × Nat × Nat) :=
  let digit (c : Char) : Option Nat := if c.isDigit then some (c.toNat - '0'.toNat) else none
  let header :=
    match cs with
    | a :: b :: _ =>
      match Chomping.ofSign? a, digit a, Chomping.ofSign? b, digit b with
      | some s, _, _, some d => (s, some d, 2)
      | some s, _, _, none => (s, none, 1)
      | none, some d, some s, _ => (s, some d, 2)
      | none, some d, none, _ => (.clip, some d, 1)
      | none, none, _, _ => (.clip, none, 0)
    | [a] =>
      match Chomping.ofSign? a, digit a with
      | some s, _ => (s, none, 1)
      | none, some d => (.clip, some d, 1)
      | none, none => (.clip, none, 0)
    | [] => (.clip, none, 0)
  match header with
  | (_, some 0, _) => none
  | (s, d, n) => some (s, d.getD 0, n)

/-- How many lines end within blanks that reach no further than a column, and the place after them.
The number in front bounds the steps. -/
def skipMargin (indent : Nat) : Nat → Cursor → Nat × Cursor
  | 0, c => (0, c)
  | fuel + 1, c =>
    let c := c.blanks (min (indent - c.column) (c.rest.takeWhile (· == ' ')).length)
    if !c.rest.isEmpty && endsLine c.rest then
      let (n, c) := skipMargin indent fuel c.newline
      (n + 1, c)
    else (0, c)

/-- The greatest column that blanks reach up to the first line with text, how many lines end in
front of that line, and the place at its text. The number in front bounds the steps. -/
def findMargin : Nat → Cursor → Nat × Nat × Cursor
  | 0, c => (0, 0, c)
  | fuel + 1, c =>
    let c := c.blanks (c.rest.takeWhile (· == ' ')).length
    if !c.rest.isEmpty && endsLine c.rest then
      let (column, n, next) := findMargin fuel c.newline
      (max c.column column, n + 1, next)
    else (c.column, 0, c)

/-- The lines of a block. -/
structure BlockText where
  text : List Char
  /-- The end of a line follows the text. -/
  closed : Bool
  /-- So many ends of lines follow then. -/
  breaks : Nat
  /-- The place after all of them. -/
  next : Cursor

/-- The lines of a block from the text of one on. `breaks` lines have ended in front of it, one
more if `closed`, and `indented` tells that the line before begins with white space. Unless the
block is literal, an end of a line between two lines that begin without is a blank. The number
bounds the steps. -/
def readLines (literal : Bool) (indent : Nat) : Nat → Bool → Bool → Nat → Cursor → BlockText
  | 0, closed, _, breaks, c => ⟨[], closed, breaks, c⟩
  | fuel + 1, closed, indented, breaks, c =>
    if c.column != indent || c.rest.isEmpty || (indent == 0 && c.atMark '.') then
      ⟨[], closed, breaks, c⟩
    else
      let blank := (c.rest.head?.map isBlank).getD false
      let gap :=
        if !literal && closed && !indented && !blank then fold false (breaks + 1) []
        else List.replicate (breaks + closed.toNat) '\n'
      let line := c.rest.takeWhile fun x => !isBreak x
      let c := c.advance line.length
      if c.rest.isEmpty then ⟨gap ++ line, false, 0, c⟩
      else
        let (breaks, c) := skipMargin indent (c.rest.length + 1) c.newline
        let t := readLines literal indent fuel true blank breaks c
        { t with text := gap ++ line ++ t.text }

/-- The end of a block: its last lines as far as they are kept. -/
def BlockText.ending (t : BlockText) (chomping : Chomping) (indent : Nat) : List Char :=
  let last :=
    -- a text that ends within the block is taken as if its line had ended
    List.replicate (t.closed.toNat + (t.next.rest.isEmpty && max indent 1 ≤ t.next.column).toNat)
      '\n'
  match chomping with
  | .strip => []
  | .clip => last
  | .keep => last ++ List.replicate t.breaks '\n'

/-- A block of lines after its mark, and the place after it. What holds the block is indented to
the column `parent`. -/
def readBlock? (literal : Bool) (parent : Int) (c : Cursor) : Option (List Char × Cursor) := do
  let (chomping, depth, n) ← blockHeader? c.rest
  let header ← (c.advance n).skipLine?
  let start := if header.rest.isEmpty then header else header.newline
  if !endsLine header.rest || start.rest.head? == some '\t' then none
  else
    let fuel := start.rest.length + 1
    let (column, leading, found) := findMargin fuel start
    let indent :=
      if depth == 0 then max column (max (parent + 1).toNat (0 < parent : Bool).toNat)
      else parent.toNat + depth
    let (breaks, first) := if depth == 0 then (leading, found) else skipMargin indent fuel start
    if first.rest.isEmpty then
      let kept :=
        if chomping == .strip || first.line == c.line then 0
        else if chomping == .clip then 1
        else max 1 breaks
      return (List.replicate kept '\n', first)
    else if first.column < indent && parent < first.column then none
    else
      let t := readLines literal indent fuel false false breaks first
      return (t.text ++ t.ending chomping indent, t.next)

end RevisionLog.Yaml
