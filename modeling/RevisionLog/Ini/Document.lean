import RevisionLog.Json.Reader
import RevisionLog.Settings.Basic
import RevisionLog.Text.Blank
import RevisionLog.Text.Reading

/-!
# INI documents

Names and values with `=` or `:` between them, under the names of sections in square brackets.

* `Ini.readValue` — a value: the rest of a line, of which a part in front may stand in quotes.
* `Ini.entries?` — what stands before the first section, and a group for each section; `none` is
  text that is no document.
-/

namespace RevisionLog.Ini

/-- The text without white space at its end. -/
def trimEnd : List Char → List Char := Text.trimEnd Text.isBlank

/-- The text without white space at its ends. -/
def trim (cs : List Char) : List Char := trimEnd (cs.dropWhile Text.isBlank)

/-- What a character after a backslash stands for. -/
def unescape : Char → Char
  | '0' => '\x00'
  | 'a' => '\x07'
  | 'b' => '\x08'
  | 't' => '\t'
  | 'r' => '\r'
  | 'n' => '\n'
  | c => c

/-- The character that four digits name; the first of them may be a plus. -/
def charOf (a b c d : Char) : Option Char := do
  let n ← Text.hexUnit (if a == '+' then '0' else a) b c d
  if n.isValidChar then some (Char.ofNat n) else none

/-- The text up to a character that ends it, and the rest from there; `last` tells that the end of
the document ends it too. A backslash at the end of a line takes away the next character as well. -/
def readUntil (ends : Char → Bool) (last : Bool) : List Char → Option (List Char × List Char)
  | [] => if last then some ([], []) else none
  | '\\' :: 'x' :: a :: b :: c :: d :: cs => do
    Text.push (← charOf a b c d) (readUntil ends last cs)
  | '\\' :: 'x' :: _ => none
  | '\\' :: '\n' :: _ :: cs => readUntil ends last cs
  | '\\' :: '\n' :: cs => readUntil ends last cs
  | '\\' :: e :: cs => Text.push (unescape e) (readUntil ends last cs)
  | c :: cs =>
    if ends c then some ([], c :: cs)
    else if c == '\\' then none
    else Text.push c (readUntil ends last cs)

/-- The end of a line. -/
def isLineEnd (c : Char) : Bool := c == '\n' || c == '\r'

/-- A value and the rest from the end of its line. A part in front may stand in quotes, where it may
hold ends of lines. -/
def readValue (cs : List Char) : Option (List Char × List Char) := do
  let (quoted, rest) ←
    match cs with
    | '"' :: cs => (readUntil (· == '"') false cs).map fun (s, rest) => (s, rest.drop 1)
    | '\'' :: cs => (readUntil (· == '\'') false cs).map fun (s, rest) => (s, rest.drop 1)
    | cs => some ([], cs)
  let (bare, rest) ← readUntil isLineEnd true rest
  return (trim (quoted ++ bare), rest)

/-- The entries from a place on: `key` waits for its value, and `root` tells that no section has
begun. A comment fills a whole line. -/
def readEntries : Nat → Bool → List Char → List Char → Option (List (String × Setting))
  | 0, _, _, _ => none
  | fuel + 1, root, key, cs =>
    match cs.dropWhile Text.isBlank with
    | [] => some []
    | c :: rest =>
      if c == ';' || c == '#' then
        if (cs.takeWhile Text.isBlank).getLast? == some '\n' then
          readEntries fuel root key (rest.dropWhile (· != '\n'))
        else none
      else if c == '[' then do
        let (name, rest) ← readUntil (· == ']') false rest
        let es ← readEntries fuel false key (rest.drop 1)
        return (String.ofList (trim name), .group) :: es
      else if c == '=' || c == ':' then
        if key.isEmpty then none
        else do
          let line := rest.dropWhile fun c => Text.isBlank c && !isLineEnd c
          let (v, rest) ← readValue line
          let es ← readEntries fuel root [] rest
          return if root then (String.ofList key, .text (String.ofList v)) :: es else es
      else do
        let (k, rest) ← readUntil (fun c => c == '=' || c == ':') false (c :: rest)
        readEntries fuel root (trim k) rest

/-- What a document gives under the names of its root. -/
def entries? (text : String) : Option (List (String × Setting)) :=
  readEntries (text.length + 2) true [] ('\n' :: text.toList)

end RevisionLog.Ini
