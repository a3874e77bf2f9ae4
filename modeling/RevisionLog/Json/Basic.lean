import RevisionLog.Decimal.Binary64

/-!
# JSON values and their text

* `Json` — a value; members of an object stand in the order they are written in.
* `Json.compact` — the value without white space.
* `Json.pretty` — the value with each entry on a line of its own, two blanks deeper per level.
-/

namespace RevisionLog

/-- A JSON value. -/
inductive Json
  | null
  | bool (b : Bool)
  | int (i : Int)
  | real (r : Binary64)
  | string (s : String)
  | array (items : List Json)
  | object (members : List (String × Json))

namespace Json

/-- A control character as the last two of four hexadecimal digits. -/
def controlDigits (n : Nat) : List Char := [Nat.digitChar (n / 16), Nat.digitChar (n % 16)]

/-- One character as it stands in a JSON string. -/
def escape (c : Char) : List Char :=
  match c with
  | '"' => ['\\', '"']
  | '\\' => ['\\', '\\']
  | '\n' => ['\\', 'n']
  | '\r' => ['\\', 'r']
  | '\t' => ['\\', 't']
  | '\x08' => ['\\', 'b']
  | '\x0c' => ['\\', 'f']
  | c => if c < ' ' then '\\' :: 'u' :: '0' :: '0' :: controlDigits c.toNat else [c]

/-- A JSON string. -/
def quoted (s : String) : List Char := '"' :: s.toList.flatMap escape ++ ['"']

/-- An integer in decimal. -/
def digits (i : Int) : List Char :=
  if i < 0 then '-' :: Nat.toDigits 10 i.natAbs else Nat.toDigits 10 i.natAbs

/-- A value that holds no other, and brackets around nothing. -/
def leaf : Json → List Char
  | null => "null".toList
  | bool b => (if b then "true" else "false").toList
  | int i => digits i
  | real r => r.pointed.toList
  | string s => quoted s
  | array _ => ['[', ']']
  | object _ => ['\x7b', '\x7d']

mutual

/-- The value without white space. -/
def compact : Json → List Char
  | array (v :: vs) => '[' :: compact v ++ compactItems vs
  | object ((k, v) :: ms) => '\x7b' :: quoted k ++ ':' :: compact v ++ compactMembers ms
  | v => leaf v

/-- The further items of an array. -/
def compactItems : List Json → List Char
  | [] => [']']
  | v :: vs => ',' :: compact v ++ compactItems vs

/-- The further members of an object. -/
def compactMembers : List (String × Json) → List Char
  | [] => ['\x7d']
  | (k, v) :: ms => ',' :: quoted k ++ ':' :: compact v ++ compactMembers ms

end

/-- The start of a line at a depth. -/
def newline (depth : Nat) : List Char := '\n' :: List.replicate (2 * depth) ' '

mutual

/-- The value over several lines, from a depth on. -/
def prettyAt (depth : Nat) : Json → List Char
  | array (v :: vs) => '[' :: newline (depth + 1) ++ prettyAt (depth + 1) v ++ prettyItems depth vs
  | object ((k, v) :: ms) =>
    '\x7b' :: newline (depth + 1) ++ quoted k ++ ':' :: ' ' :: prettyAt (depth + 1) v ++
      prettyMembers depth ms
  | v => leaf v

/-- The further items of an array. -/
def prettyItems (depth : Nat) : List Json → List Char
  | [] => newline depth ++ [']']
  | v :: vs => ',' :: newline (depth + 1) ++ prettyAt (depth + 1) v ++ prettyItems depth vs

/-- The further members of an object. -/
def prettyMembers (depth : Nat) : List (String × Json) → List Char
  | [] => newline depth ++ ['\x7d']
  | (k, v) :: ms =>
    ',' :: newline (depth + 1) ++ quoted k ++ ':' :: ' ' :: prettyAt (depth + 1) v ++
      prettyMembers depth ms

end

/-- The value over several lines. -/
def pretty (v : Json) : String := String.ofList (prettyAt 0 v)

/-- Bytes as an array of numbers. -/
def ofBytes (bs : List UInt8) : Json := array (bs.map fun b => int b.toNat)

end Json

end RevisionLog
