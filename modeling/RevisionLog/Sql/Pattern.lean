import RevisionLog.Engine.Pattern
import RevisionLog.Sql.Value

/-!
# Patterns of expressions

* `Part` — what one part of a pattern matches.
* `Part.ofLike`, `Part.ofGlob` — the parts of a pattern of `LIKE` and of `GLOB`.
* `Part.accept` — whether characters match parts.
-/

namespace RevisionLog.Sql

/-- A part of a pattern. -/
inductive Part
  /-- Any run of characters. -/
  | run
  /-- Any one character. -/
  | one
  /-- A character; `folded` leaves out the case of ASCII letters. -/
  | exact (c : Nat) (folded : Bool)
  /-- A character within some ranges, or outside of them. -/
  | set (negated : Bool) (ranges : List (Nat × Nat))
  /-- Nothing. -/
  | never
deriving DecidableEq, Repr

namespace Part

/-- A part that is no run matches a character. -/
def matchesOne (c : Nat) : Part → Bool
  | one => true
  | exact d folded => if folded then Pattern.folded c == Pattern.folded d else c == d
  | set negated ranges => ranges.any (fun (a, b) => a ≤ c && c ≤ b) != negated
  | run | never => false

/-- For each suffix of the characters, longest first, whether the parts match it. -/
def onSuffixes : List Part → List Nat → List Bool
  | [], cs => cs.map (fun _ => false) ++ [true]
  | p :: ps, cs =>
    let rest := onSuffixes ps cs
    if p == run then Pattern.orLater rest
    else List.zipWith (fun c later => p.matchesOne c && later) cs rest.tail ++ [false]

/-- Whether the characters match the parts. -/
def accept (ps : List Part) (cs : List Nat) : Bool := (onSuffixes ps cs).headD false

/-- The parts of a pattern of `LIKE`. Behind the escape character every character stands for
itself. -/
def ofLike (escape : Option Nat) : List Nat → List Part
  | [] => []
  | c :: cs =>
    if some c == escape then
      match cs with
      | [] => [never]
      | d :: ds => exact d true :: ofLike escape ds
    else if c == Pattern.anyRun then run :: ofLike escape cs
    else if c == Pattern.anyOne then one :: ofLike escape cs
    else exact c true :: ofLike escape cs

/-- The ranges of a set up to its end, and the rest behind it; the first character may be a closing
bracket. `none` is a set without end. -/
def ranges? (first : Bool) : List Nat → Option (List (Nat × Nat) × List Nat)
  | [] => none
  | [c] => if c == ']'.toNat && !first then some ([], []) else none
  | [c, d] =>
    if c == ']'.toNat && !first then some ([], [d])
    else (ranges? false [d]).map fun (rs, rest) => ((c, c) :: rs, rest)
  | c :: d :: e :: cs =>
    if c == ']'.toNat && !first then some ([], d :: e :: cs)
    else if d == '-'.toNat && e != ']'.toNat then
      (ranges? false cs).map fun (rs, rest) => ((c, e) :: rs, rest)
    else (ranges? false (d :: e :: cs)).map fun (rs, rest) => ((c, c) :: rs, rest)

/-- The parts of a pattern of `GLOB`. The number bounds the steps. -/
def ofGlob : Nat → List Nat → List Part
  | 0, _ => []
  | _, [] => []
  | fuel + 1, c :: cs =>
    if c == '*'.toNat then run :: ofGlob fuel cs
    else if c == '?'.toNat then one :: ofGlob fuel cs
    else if c == '['.toNat then
      let (negated, body) := if cs.head? == some '^'.toNat then (true, cs.tail) else (false, cs)
      match ranges? true body with
      | none => [never]
      | some (rs, rest) => set negated rs :: ofGlob fuel rest
    else exact c false :: ofGlob fuel cs

end Part

/-- The code points of a cell that count for a match. -/
def codesOf (c : Cell) : List Nat := c.codes.getD []

/-- Whether a cell matches a pattern of `LIKE`. -/
def like (pattern subject : Cell) (escape : Option Nat) : Cell :=
  if pattern == .null || subject == .null then .null
  else .flag (Part.accept (Part.ofLike escape (codesOf pattern)) (codesOf subject))

/-- Whether a cell matches a pattern of `GLOB`. -/
def glob (pattern subject : Cell) : Cell :=
  if pattern == .null || subject == .null then .null
  else
    let cs := codesOf pattern
    .flag (Part.accept (Part.ofGlob cs.length cs) (codesOf subject))

/-- The pattern is too long to be matched against anything. -/
def isTooComplex (pattern : Cell) : Bool :=
  Pattern.maxBytes < ((pattern.bytes?.map List.length).getD 0)

end RevisionLog.Sql
