import RevisionLog.Engine.Cell

/-!
# LIKE patterns

In a pattern `%` stands for any run of characters and `_` for any one; there is no escape. ASCII
letters match in either case, all else exactly. A pattern and what it is matched against end at the
first U+0000.

* `Pattern.accepts` — whether code points match a pattern.
* `Cell.isLike` — whether a cell does; NULL never does.
* `Pattern.isTooComplex` — patterns so long that the engine refuses to match anything against them.
-/

namespace RevisionLog

namespace Pattern

/-- The code points of text that count for a match; U+FFFE and U+FFFF read as U+FFFD. -/
def codes (s : String) : List Nat :=
  (s.toList.takeWhile (· != '\x00')).map fun c =>
    if c == '\ufffe' || c == '\uffff' then Text.replacement.toNat else c.toNat

/-- The code point of `%`. -/
def anyRun : Nat := '%'.toNat

/-- The code point of `_`. -/
def anyOne : Nat := '_'.toNat

/-- A code point with the case of ASCII letters left out. -/
def folded (c : Nat) : Nat := if 'A'.toNat ≤ c && c ≤ 'Z'.toNat then c + 32 else c

/-- Whether one code point of a pattern, other than `%`, matches `c`. -/
def matchesOne (q c : Nat) : Bool := q == anyOne || folded q == folded c

/-- For each suffix, longest first, whether that suffix or a shorter one is marked. -/
def orLater : List Bool → List Bool
  | [] => []
  | b :: bs => let later := orLater bs; (b || later.headD false) :: later

/-- For each suffix of the subject, longest first, whether the pattern matches it. -/
def onSuffixes : List Nat → List Nat → List Bool
  | [], cs => cs.map (fun _ => false) ++ [true]
  | q :: p, cs =>
    let rest := onSuffixes p cs
    if q == anyRun then orLater rest
    else List.zipWith (fun c later => matchesOne q c && later) cs rest.tail ++ [false]

/-- Whether the code points match the pattern. -/
def accepts (pattern subject : List Nat) : Bool := (onSuffixes pattern subject).headD false

/-- The greatest number of bytes in a pattern. -/
def maxBytes : Nat := 50000

/-- The pattern is too long to be matched against anything. -/
def isTooComplex (pattern : String) : Bool := maxBytes < pattern.utf8ByteSize

end Pattern

/-- The code points of a cell that count for a match. -/
def Cell.codes : Cell → Option (List Nat)
  | null => none
  | int i => some (Pattern.codes (toString i))
  | real r => some (Pattern.codes (realText r))
  | text s => some (Pattern.codes s)
  | blob b => some (Text.decodeLoose (b.takeWhile (· != 0)))

/-- Whether a cell matches a pattern. -/
def Cell.isLike (c : Cell) (pattern : String) : Bool :=
  match c.codes with
  | none => false
  | some cs => Pattern.accepts (Pattern.codes pattern) cs

end RevisionLog
