import RevisionLog.Settings.Basic

/-!
# Keys of settings

A key may name what stands inside a setting: `a.b` is the `b` of the table `a`, and `a[0]` the first
item of the list `a`. To give such a part is to give a group under the name in front. Text that is
no such way is one name as it stands.

* `Key.root?` — the name in front of a way into a group.
* `Settings.entry` — what a key and a value give.
-/

namespace RevisionLog

namespace Key

/-- Characters of a name on a way. -/
def isNameChar (c : Char) : Bool := c.isAlphanum || c == ' ' || c == '_' || c == '-'

/-- The name in front, which has at least one character, and the rest. -/
def takeName (cs : List Char) : Option (List Char × List Char) :=
  let name := cs.takeWhile isNameChar
  if name.isEmpty then none else some (name, cs.dropWhile isNameChar)

/-- White space around the number of an item. -/
def isBlank (c : Char) : Bool := c == ' ' || c == '\t'

/-- The rest after the number of an item and the bracket behind it; the number is an integer of 64
bits, and a plus is no part of it. -/
def skipItem (cs : List Char) : Option (List Char) := do
  let cs := cs.dropWhile isBlank
  let (negative, ds, rest) :=
    match cs with
    | '-' :: cs => (true, Digits.take cs)
    | cs => (false, Digits.take cs)
  let i ← (Digits.whole? ds).map (Digits.signed negative)
  match rest.dropWhile isBlank with
  | ']' :: rest => if minInt ≤ i && i ≤ maxInt then some rest else none
  | _ => none

/-- The text is a run of steps down: names after dots and numbers in brackets. -/
def isDescent : Nat → List Char → Bool
  | _, [] => true
  | 0, _ => false
  | fuel + 1, '.' :: cs =>
    match takeName cs with
    | some (_, rest) => isDescent fuel rest
    | none => false
  | fuel + 1, '[' :: cs =>
    match skipItem cs with
    | some rest => isDescent fuel rest
    | none => false
  | _, _ => false

/-- The name in front of a way into a group, if the key is one. -/
def root? (key : String) : Option String := do
  let (name, rest) ← takeName key.toList
  if !rest.isEmpty && isDescent rest.length rest then some (String.ofList name) else none

end Key

/-- What a key and a value give: a group, if the key leads into one. -/
def Settings.entry (key : String) (value : Setting) : String × Setting :=
  match Key.root? key with
  | some name => (name, .group)
  | none => (key, value)

end RevisionLog
