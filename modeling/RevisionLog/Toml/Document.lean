import RevisionLog.Toml.Table
import RevisionLog.Toml.Text

/-!
# TOML documents

`Toml.entries?` reads a document and answers what stands under the keys of its root; `none` is text
that is no document.
-/

namespace RevisionLog.Toml

mutual

/-- A value, and the rest; `depth` is how many levels deeper values may stand. -/
def readValue (depth : Nat) : Nat → List Char → Option (Setting × List Char)
  | 0, _ => none
  | fuel + 1, cs =>
    match cs with
    | '[' :: cs =>
      if depth == 0 then none
      else (readItems (depth - 1) fuel cs).map fun rest => (.group, rest)
    | '\x7b' :: cs =>
      if depth == 0 then none
      else
        match skip cs with
        | '\x7d' :: cs => some (.group, cs)
        | cs => (readPairs (depth - 1) fuel [] cs).map fun rest => (.group, rest)
    | '"' :: _ | '\'' :: _ => (readString cs).map fun (s, rest) => (.text s, rest)
    | 't' :: 'r' :: 'u' :: 'e' :: rest => some (.flag true, rest)
    | 'f' :: 'a' :: 'l' :: 's' :: 'e' :: rest => some (.flag false, rest)
    | cs =>
      if startsDate cs || startsTime cs then
        (readMoment cs).map fun (s, rest) => (.text (.ofList s), rest)
      else readNumber cs

/-- The rest after the items of an array. -/
def readItems (depth : Nat) : Nat → List Char → Option (List Char)
  | 0, _ => none
  | fuel + 1, cs =>
    match skipLines false cs with
    | ']' :: rest => some rest
    | cs => do
      let (_, rest) ← readValue depth fuel cs
      match skipLines false rest with
      | ',' :: rest => readItems depth fuel rest
      | ']' :: rest => some rest
      | _ => none

/-- The rest after the pairs of a table on one line, at least one. -/
def readPairs (depth : Nat) : Nat → Members → List Char → Option (List Char)
  | 0, _, _ => none
  | fuel + 1, ms, cs => do
    let ((way, k), rest) ← readKey cs
    let (v, rest) ← readValue depth fuel (skip (← expect '=' rest))
    let ms ← ms.insert way k v
    match skip rest with
    | ',' :: rest => readPairs depth fuel ms rest
    | '\x7d' :: rest => some rest
    | _ => none

end

/-- What has been read of a document: the root, and the way to the table under the last header. -/
structure Draft where
  root : Members := []
  here : List String := []

/-- One line of a document that holds more than a comment, and the rest. -/
def readStatement (d : Draft) (cs : List Char) : Option (Draft × List Char) :=
  match cs with
  | '[' :: '[' :: cs => do
    let ((way, k), rest) ← readKey cs
    let rest ← endLine (← expect ']' (← expect ']' rest))
    return (⟨← d.root.openSeries way k, way ++ [k]⟩, rest)
  | '[' :: cs => do
    let ((way, k), rest) ← readKey cs
    let rest ← endLine (← expect ']' rest)
    return (⟨← d.root.openTable way k, way ++ [k]⟩, rest)
  | cs => do
    let ((way, k), rest) ← readKey cs
    let rest := skip (← expect '=' rest)
    let (v, rest) ← readValue maxNesting (2 * rest.length + 2) rest
    let rest ← endLine rest
    return (⟨← d.root.insertAt d.here way k v, d.here⟩, rest)

/-- The lines of a document. -/
def readStatements : Nat → Draft → List Char → Option Draft
  | 0, _, _ => none
  | fuel + 1, d, cs =>
    match skip cs with
    | [] => some d
    | '\n' :: cs => readStatements fuel d cs
    | '#' :: cs => do readStatements fuel d (← endLine ('#' :: cs))
    | '\r' :: cs => do readStatements fuel d (← newline? ('\r' :: cs))
    | cs => do
      let (d, rest) ← readStatement d cs
      readStatements fuel d rest

/-- The text without a byte order mark. -/
def skipMark : List Char → List Char
  | '\ufeff' :: cs => cs
  | cs => cs

/-- What a document gives under the keys of its root. -/
def entries? (text : String) : Option (List (String × Setting)) :=
  let cs := skipMark text.toList
  (readStatements (cs.length + 1) {} cs).map fun d => d.root.map fun (k, i) => (k, i.setting)

end RevisionLog.Toml
