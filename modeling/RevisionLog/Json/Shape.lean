import RevisionLog.Json.Reader
import RevisionLog.Text.Quoted

/-!
# JSON of a given shape

Text is read straight into a type, without a tree between. Reading stops at the first problem in
the text; what an object lacks is told when it ends.

* `Json.Fault` — text that is not JSON, or JSON of another shape, with `Json.Problem.message`.
* `Json.Reader` — reads a value off the front of a text.
* `Json.Shape` — the fields of a type; `Json.Shape.read` accepts an object with its fields in any
  order among others, or an array of its fields in their own order.
* `Json.decode` — a whole text.
-/

namespace RevisionLog.Json

/-- What a text holds where something else is expected. -/
inductive Found
  | integer (i : Int)
  | real (r : Binary64)
  | string (s : String)
  | bool (b : Bool)
  | null
  | map
  | sequence
deriving DecidableEq, Repr

/-- How the thing found is named in a message. -/
def Found.text : Found → String
  | integer i => "integer \x60" ++ toString i ++ "\x60"
  | real r => "floating point \x60" ++ r.pointed ++ "\x60"
  | string s => "string " ++ Text.quote s
  | bool b => "boolean \x60" ++ toString b ++ "\x60"
  | null => "null"
  | map => "map"
  | sequence => "sequence"

/-- How JSON does not fit a type. -/
inductive Problem
  | missing (field : String)
  | duplicate (field : String)
  | wrongType (found : Found) (expected : String)
  | wrongValue (found : Found) (expected : String)
  | wrongLength (length : Nat) (expected : String)
deriving DecidableEq, Repr

/-- What the problem says. -/
def Problem.message : Problem → String
  | missing field => "missing field \x60" ++ field ++ "\x60"
  | duplicate field => "duplicate field \x60" ++ field ++ "\x60"
  | wrongType found expected => "invalid type: " ++ found.text ++ ", expected " ++ expected
  | wrongValue found expected => "invalid value: " ++ found.text ++ ", expected " ++ expected
  | wrongLength length expected =>
    "invalid length " ++ toString length ++ ", expected " ++ expected

/-- How reading fails. -/
inductive Fault
  /-- The text is not JSON. -/
  | malformed
  /-- The JSON does not fit. -/
  | misfit (problem : Problem)
deriving DecidableEq, Repr

/-- Reads a value off the front of a text, and gives back the rest. -/
abbrev Reader (α : Type) := List Char → Except Fault (α × List Char)

/-- What was read, or malformed text. -/
def wellFormed {α : Type} : Option α → Except Fault α
  | some a => .ok a
  | none => .error .malformed

/-! ## Single values -/

/-- The fault of a value of another type than expected, which is read to name it. -/
def misfit (expected : String) (cs : List Char) : Fault :=
  let wrong (f : Found) : Fault := .misfit (.wrongType f expected)
  match skip cs with
  | '"' :: cs =>
    match stringBody cs with
    | some (s, _) => wrong (.string (String.ofList s))
    | none => .malformed
  | '[' :: _ => wrong .sequence
  | '\x7b' :: _ => wrong .map
  | c :: cs =>
    match if startsNumber c then readNumber (c :: cs) else readName (c :: cs) with
    | some (.int i, _) => wrong (.integer i)
    | some (.real r, _) => wrong (.real r)
    | some (.bool b, _) => wrong (.bool b)
    | some (.null, _) => wrong .null
    | _ => .malformed
  | [] => .malformed

/-- An integer from `lo` to `hi`. -/
def readInt (expected : String) (lo hi : Int) : Reader Int := fun cs =>
  match skip cs with
  | c :: rest =>
    if startsNumber c then
      match readNumber (c :: rest) with
      | some (.int i, rest) =>
        if lo ≤ i && i ≤ hi then .ok (i, rest)
        else .error (.misfit (.wrongValue (.integer i) expected))
      | some (.real r, _) => .error (.misfit (.wrongType (.real r) expected))
      | _ => .error .malformed
    else .error (misfit expected cs)
  | [] => .error .malformed

/-- A flag. -/
def readBool (expected : String) : Reader Bool := fun cs =>
  match skip cs with
  | 't' :: rest => (wellFormed (readWord "true".toList ('t' :: rest))).map fun rest => (true, rest)
  | 'f' :: rest =>
    (wellFormed (readWord "false".toList ('f' :: rest))).map fun rest => (false, rest)
  | _ => .error (misfit expected cs)

/-- A string. -/
def readString (expected : String) : Reader String := fun cs =>
  match skip cs with
  | '"' :: rest => (wellFormed (stringBody rest)).map fun (s, rest) => (String.ofList s, rest)
  | _ => .error (misfit expected cs)

/-- What stands between the entries of a list: nothing before the first, a comma before others.
`none` is the end, with the closing bracket left in the text. -/
def nextItem (close : Char) (first : Bool) (cs : List Char) : Except Fault (Option (List Char)) :=
  match skip cs with
  | [] => .error .malformed
  | c :: cs =>
    if c == close then .ok none
    else if first then .ok (some (c :: cs))
    else if c == ',' then
      match skip cs with
      | [] => .error .malformed
      | d :: cs => if d == close then .error .malformed else .ok (some (d :: cs))
    else .error .malformed

/-- The rest after a closing bracket. -/
def readClose (close : Char) (cs : List Char) : Except Fault (List Char) :=
  match skip cs with
  | c :: cs => if c == close then .ok cs else .error .malformed
  | [] => .error .malformed

/-- The items of an array of bytes, after its opening bracket. -/
def readByteItems : Nat → Bool → Reader (List UInt8)
  | 0, _, _ => .error .malformed
  | fuel + 1, first, cs => do
    match ← nextItem ']' first cs with
    | none => return ([], cs)
    | some cs =>
      let (i, rest) ← readInt "u8" 0 255 cs
      let (bs, rest) ← readByteItems fuel false rest
      return (UInt8.ofNat i.toNat :: bs, rest)

/-- An array of bytes. -/
def readBytes : Reader (List UInt8) := fun cs =>
  match skip cs with
  | '[' :: rest => do
    let (bs, rest) ← readByteItems (rest.length + 1) true rest
    return (bs, ← readClose ']' rest)
  | _ => .error (misfit "a sequence" cs)

/-! ## Shapes -/

/-- A field of a type that is being read into `π`. -/
structure Field (π : Type) where
  name : String
  /-- The field has been read. -/
  isSet : π → Bool
  /-- Reads the field's value. -/
  read : π → Reader π
  /-- The field may be left out. -/
  optional : Bool := false

/-- The fields of `α`, gathered in a `π`. -/
structure Shape (π α : Type) where
  /-- What the type is called in a message. -/
  title : String
  fields : List (Field π)
  /-- Nothing has been read yet. -/
  blank : π
  /-- Everything has been read. -/
  build : π → α

namespace Shape

variable {π α : Type}

/-- The members of an object, after its opening bracket; the closing one is left. -/
def readMembers (s : Shape π α) : Nat → Bool → π → Reader π
  | 0, _, _, _ => .error .malformed
  | fuel + 1, first, p, cs => do
    match ← nextItem '\x7d' first cs with
    | none => return (p, cs)
    | some ('"' :: cs) =>
      let (key, rest) ← wellFormed (stringBody cs)
      match s.fields.find? fun f => f.name.toList == key with
      | some f =>
        if f.isSet p then throw (.misfit (.duplicate f.name))
        let (p, rest) ← f.read p (← wellFormed (readColon rest))
        readMembers s fuel false p rest
      | none =>
        let rest ← wellFormed (readColon rest)
        readMembers s fuel false p (← wellFormed (ignoreValue (2 * rest.length + 2) rest))
    | some _ => .error .malformed

/-- The items of an array, one for each field; `done` of them have been read. -/
def readItems (s : Shape π α) : List (Field π) → Nat → π → Reader π
  | [], _, p, cs => .ok (p, cs)
  | f :: fs, done, p, cs => do
    match ← nextItem ']' (done == 0) cs with
    | none =>
      if f.optional then s.readItems fs done p cs
      else
        .error (.misfit (.wrongLength done
          (s.title ++ " with " ++ toString s.fields.length ++ " elements")))
    | some cs =>
      let (p, rest) ← f.read p cs
      s.readItems fs (done + 1) p rest

/-- The value, unless a field is missing; the first that is missing is told. -/
def finish (s : Shape π α) (p : π) : Except Fault α :=
  match s.fields.find? fun f => !f.isSet p && !f.optional with
  | some f => .error (.misfit (.missing f.name))
  | none => .ok (s.build p)

/-- An object or an array of the type's fields. -/
def read (s : Shape π α) : Reader α := fun cs =>
  match skip cs with
  | '\x7b' :: rest => do
    let (p, rest) ← s.readMembers (rest.length + 1) true s.blank rest
    let a ← s.finish p
    return (a, ← readClose '\x7d' rest)
  | '[' :: rest => do
    let (p, rest) ← s.readItems s.fields 0 s.blank rest
    return (s.build p, ← readClose ']' rest)
  | _ => .error (misfit s.title cs)

end Shape

/-- A whole text read by a reader. -/
def decode {α : Type} (read : Reader α) (text : String) : Except Fault α := do
  let (a, rest) ← read text.toList
  if (skip rest).isEmpty then return a else throw .malformed

end RevisionLog.Json
