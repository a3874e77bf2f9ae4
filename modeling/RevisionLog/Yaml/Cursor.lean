import RevisionLog.Text.Reading

/-!
# Places in a YAML document

What a character means hangs on its column, and on whether the same line holds more in front of it.

* `Cursor` — a place in a text, with the text from there on.
* `Cursor.advance`, `Cursor.newline` — the place after some characters, and after the end of a line.
* `Cursor.skipLine?` — what may stand behind a word: white space and a comment.
-/

namespace RevisionLog.Yaml

/-- White space within a line. -/
def isBlank (c : Char) : Bool := c == ' ' || c == '\t'

/-- The end of a line. -/
def isBreak (c : Char) : Bool := c == '\n' || c == '\r'

/-- Marks of lists and maps in brackets. -/
def isFlow (c : Char) : Bool :=
  c == ',' || c == '[' || c == ']' || c == '\x7b' || c == '\x7d'

/-- A text from here on begins with the end of a line, or is at its own end. -/
def endsLine (cs : List Char) : Bool := (cs.head?.map isBreak).getD true

/-- A text from here on begins with what ends a word. -/
def endsWord (cs : List Char) : Bool := (cs.head?.map fun c => isBlank c || isBreak c).getD true

/-- A place in a text. -/
structure Cursor where
  /-- The text from here on. -/
  rest : List Char
  /-- How many characters are in front. -/
  index : Nat
  /-- How many lines are in front. -/
  line : Nat
  /-- How many characters of the same line are in front. -/
  column : Nat
  /-- All of them are white space. -/
  fresh : Bool

namespace Cursor

/-- The beginning of a text, which goes as far as the first zero character. -/
def ofText (text : String) : Cursor := ⟨text.toList.takeWhile (· != '\x00'), 0, 0, 0, true⟩

/-- The place after some white space of the same line. -/
def blanks (n : Nat) (c : Cursor) : Cursor :=
  { c with rest := c.rest.drop n, index := c.index + n, column := c.column + n }

/-- The place after some characters of the same line. -/
def advance (n : Nat) (c : Cursor) : Cursor := { c.blanks n with fresh := c.fresh && n == 0 }

/-- The place from which on the text is `rest`, on the same line. -/
def upTo (rest : List Char) (c : Cursor) : Cursor := c.advance (c.rest.length - rest.length)

/-- The place after the end of a line, which two characters may write. -/
def newline (c : Cursor) : Cursor :=
  let n := if c.rest.take 2 == ['\r', '\n'] then 2 else 1
  { rest := c.rest.drop n, index := c.index + n, line := c.line + 1, column := 0, fresh := true }

/-- The end of the same line. -/
def toBreak (c : Cursor) : Cursor := c.advance (c.rest.takeWhile fun x => !isBreak x).length

/-- A line begins here with the mark of a document, three times `x` as a word. -/
def atMark (x : Char) (c : Cursor) : Bool :=
  c.column == 0 && c.rest.take 3 == [x, x, x] && endsWord (c.rest.drop 3)

/-- A line begins here with one of the marks of documents. -/
def atMarks (c : Cursor) : Bool := c.atMark '-' || c.atMark '.'

/-- The place after white space of the same line and a comment. White space has to stand in front
of a comment. -/
def skipLine? (c : Cursor) : Option Cursor :=
  let next := c.blanks (c.rest.takeWhile isBlank).length
  if next.rest.head? != some '#' then some next
  else if next.index == c.index then none
  else some next.toBreak

end Cursor

end RevisionLog.Yaml
