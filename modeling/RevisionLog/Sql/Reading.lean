import RevisionLog.Sql.Refusal
import RevisionLog.Sql.Syntax
import RevisionLog.Sql.Token

/-!
# Reading tokens

* `Reading` — the tokens that are left, with the parameters met so far.
* `Read` — what takes tokens away, or refuses the next one.
* `Read.parameter`, `Read.literal?` — a token as a parameter or as a value.
* `JoinKind.ofWords?` — how tables are joined, by the words for it.
-/

namespace RevisionLog.Sql

/-- What is left to read, and what has been met. -/
structure Reading where
  tokens : List Token
  /-- Parameters with a name of their own, by number. -/
  named : List (String × Nat) := []
  /-- The greatest number of a parameter. -/
  highest : Nat := 0
  /-- Why what has been read is refused, unless the next token is. -/
  refused : Option Refusal := none

/-- Reads tokens. -/
abbrev Read := StateT Reading (Except Refusal)

namespace Read

/-- The end of a text. -/
def finish : Token := ⟨.finish, [], 0, []⟩

/-- The next token. What is no token is refused. -/
def peek : Read Token := do
  let t := (← get).tokens.headD finish
  if t.kind == .illegal then
    throw { said := "unrecognized token: \"" ++ String.ofList t.text ++ "\"", offset := t.offset }
  return t

/-- The kind of the token `n` places behind the next. -/
def kindAt (n : Nat) : Read Kind := return ((← get).tokens[n]?.getD finish).kind

/-- Refuses what has been read, unless the next token is refused. -/
def doubt (refusal : Refusal) : Read Unit := modify ({ · with refused := some refusal })

/-- Goes no further where something is refused. -/
def settle : Read Unit := do
  if let some refusal := (← get).refused then throw refusal

/-- Takes the next token. -/
def skip : Read Unit := do
  settle
  modify fun r => { r with tokens := r.tokens.drop 1 }

/-- A token stands where it cannot. -/
def near (t : Token) : Refusal :=
  if t.kind == .finish then { said := "incomplete input" }
  else { said := "near \"" ++ String.ofList t.text ++ "\": syntax error", offset := t.offset }

/-- Refuses the next token. -/
def unexpected {α : Type} : Read α := do throw (near (← peek))

/-- Takes the next token if it is of a kind. -/
def take? (kind : Kind) : Read Bool := do
  if (← peek).kind == kind then
    skip
    return true
  return false

/-- Takes a keyword if it is next. -/
def word? (word : String) : Read Bool := take? (.keyword word)

/-- Takes a mark if it is next. -/
def mark? (mark : String) : Read Bool := take? (.symbol mark)

/-- Takes a keyword. -/
def word (word : String) : Read Unit := do if !(← word? word) then unexpected

/-- Takes a mark. -/
def mark (mark : String) : Read Unit := do if !(← mark? mark) then unexpected

/-- Takes a token as the name of something. -/
def name : Read String := do
  match (← peek).name? with
  | some s => do
    skip
    return s
  | none => unexpected

/-- Takes a name that nothing introduces, if there is one. -/
def bareName? : Read (Option String) := do
  match (← peek).alias? with
  | some s => do
    skip
    return some s
  | none => return none

/-- Takes a name with or without `AS` in front, if there is one. -/
def alias? : Read (Option String) := do
  if ← word? "AS" then return some (← name) else bareName?

/-- Takes the name of a thing, with the name of its database if that is given. -/
def fullName : Read (Option String × String) := do
  let a ← name
  if ← mark? "." then return (some a, ← name) else return (none, a)

/-- Takes what is said of the index that is to lead to the rows of a table: its name, or that there
is none. -/
def index? : Read (Option String) := do
  if ← word? "INDEXED" then
    word "BY"
    return some (← name)
  if ← word? "NOT" then word "INDEXED"
  return none

/-- Items with commas between them, up to a number of them. -/
def separated {α : Type} (item : Read α) : Nat → Read (List α)
  | 0 => throw .tooDeep
  | n + 1 => do
    let a ← item
    if ← mark? "," then return a :: (← separated item n) else return [a]

/-- Names in brackets. -/
def names (n : Nat) : Read (List String) := do
  mark "("
  let ns ← separated name n
  mark ")"
  return ns

/-- The greatest number that a parameter can have. -/
def maxParameter : Nat := 32766

/-- The number of a parameter: the one that is written, that of its name, or the next. -/
def parameter (t : Token) : Read Nat := do
  let r ← get
  let next : Read Nat := do
    if maxParameter ≤ r.highest then
      doubt { said := "too many SQL variables", offset := t.offset }
    return r.highest + 1
  match t.text with
  | ['?'] => do
    let n ← next
    modify ({ · with highest := n })
    return n
  | '?' :: digits =>
    let n := Digits.value digits
    if n < 1 || maxParameter < n then
      doubt {
        said := "variable number must be between ?1 and ?" ++ toString maxParameter
        offset := t.offset }
    modify ({ · with highest := max r.highest n })
    return n
  | text =>
    if text.head? == some '#' && ((text.drop 1).head?.map Char.isDigit).getD false then
      doubt (near t)
    let name := String.ofList text
    match r.named.lookup name with
    | some n => return n
    | none => do
      let n ← next
      modify ({ · with highest := n, named := (name, n) :: r.named })
      return n

end Read

/-! ## Values -/

/-- Bytes that pairs of hexadecimal digits write. -/
def hexBytes : List Char → Bytes
  | a :: b :: cs =>
    UInt8.ofNat (16 * (Text.hexValue a).getD 0 + (Text.hexValue b).getD 0) :: hexBytes cs
  | _ => []

/-- A token as a value. -/
def Token.literal? (t : Token) : Option Expr :=
  match t.kind with
  | .string => some (.const (.text t.plain) t.offset)
  | .keyword "NULL" => some (.const .null t.offset)
  | .real =>
    let (d, e) := (Binary64.decimal? t.text).getD (0, 0)
    some (.const (.real (Cell.realOf false d e)) t.offset)
  | .blob => some (.const (.blob (hexBytes ((t.text.drop 2).takeWhile isHex))) t.offset)
  | .integer =>
    match t.text with
    | '0' :: 'x' :: ds | '0' :: 'X' :: ds =>
      some (.hex ((Text.natOfBase? 16 ds).getD 0) (String.ofList t.text) t.offset)
    | ds => some (.integer (Digits.value ds) t.offset)
  | _ => none

/-- A token as a name within an expression. -/
def Token.ident (t : Token) : Ident where
  text := t.plain
  mark := t.text.head?.filter fun c => c == '"' || c == '[' || c == '\'' || c == '\x60'
  offset := t.offset

/-! ## Joins -/

/-- What a word says of a join. -/
structure JoinWord where
  natural : Bool := false
  left : Bool := false
  right : Bool := false
  outer : Bool := false
  inner : Bool := false

/-- What a word says of a join, if it says anything. -/
def JoinWord.of? (word : String) : Option JoinWord :=
  match word.map Char.toUpper with
  | "NATURAL" => some { natural := true }
  | "LEFT" => some { left := true, outer := true }
  | "RIGHT" => some { right := true, outer := true }
  | "FULL" => some { left := true, right := true, outer := true }
  | "OUTER" => some { outer := true }
  | "INNER" | "CROSS" => some { inner := true }
  | _ => none

/-- How tables are joined, by up to three words for it. -/
def JoinKind.ofWords? (words : List String) : Option JoinKind := do
  let ws ← words.mapM JoinWord.of?
  let outer := ws.any (·.outer)
  let left := ws.any (·.left)
  let right := ws.any (·.right)
  if (outer && ws.any (·.inner)) || (outer && !left && !right) then none
  else some { natural := ws.any (·.natural), keepsLeft := left, keepsRight := right }

end RevisionLog.Sql
