/-!
# Reading text

A reader takes the text that is left, and gives back what it has read and what is left then.

* `Text.push` — one more character in front of what has been read.
* `Text.readQuoted` — text in single quotes, in which a quote stands twice.
* `Text.trimEnd` — text without white space at its end.
* `Text.hexValue`, `Text.hexUnit` — one hexadecimal digit, and four of them.
* `Text.natOfBase?` — the number that digits to another base write.
* `Text.charOf` — the character with a code point.
-/

namespace RevisionLog.Text

/-- A character in front of what has been read. -/
def push (c : Char) (r : Option (List Char × List Char)) : Option (List Char × List Char) :=
  r.map fun (s, rest) => (c :: s, rest)

/-- Text after an opening quote, and the rest after the closing one; a quote in it stands twice. -/
def readQuoted : List Char → Option (List Char × List Char)
  | '\'' :: '\'' :: cs => push '\'' (readQuoted cs)
  | '\'' :: cs => some ([], cs)
  | c :: cs => push c (readQuoted cs)
  | [] => none

/-- The text without what counts as white space at its end. -/
def trimEnd (isBlank : Char → Bool) (cs : List Char) : List Char :=
  (cs.reverse.dropWhile isBlank).reverse

/-- A hexadecimal digit's value. -/
def hexValue (c : Char) : Option Nat :=
  if '0' ≤ c && c ≤ '9' then some (c.toNat - '0'.toNat)
  else if 'a' ≤ c && c ≤ 'f' then some (c.toNat - 'a'.toNat + 10)
  else if 'A' ≤ c && c ≤ 'F' then some (c.toNat - 'A'.toNat + 10)
  else none

/-- The number that four hexadecimal digits write. -/
def hexUnit (a b c d : Char) : Option Nat := do
  return 4096 * (← hexValue a) + 256 * (← hexValue b) + 16 * (← hexValue c) + (← hexValue d)

/-- The natural that digits to a base of up to 16 write. -/
def natOfBase? (base : Nat) (ds : List Char) : Option Nat :=
  if ds.isEmpty then none
  else
    ds.foldlM (fun (n : Nat) c => do
      let d ← hexValue c
      if d < base then some (base * n + d) else none) 0

/-- The character with a code point, if it has one. -/
def charOf (n : Nat) : Option Char := if n.isValidChar then some (Char.ofNat n) else none

end RevisionLog.Text
