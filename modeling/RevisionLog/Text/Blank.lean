/-!
# White space and the words between it

* `Text.isBlank` — the characters with the Unicode property White_Space.
* `Text.words` — the maximal runs of other characters, in order.
* `Text.collapse` — the words with one space between them: how a statement of many lines is shown
  on one.
-/

namespace RevisionLog.Text

/-- The Unicode property White_Space. -/
def isBlank (c : Char) : Bool :=
  ('\t' ≤ c && c ≤ '\r') || c == ' ' || c == '\u0085' || c == '\u00a0' || c == '\u1680' ||
    ('\u2000' ≤ c && c ≤ '\u200a') || c == '\u2028' || c == '\u2029' || c == '\u202f' ||
    c == '\u205f' || c == '\u3000'

/-- Puts a character in front of the first word; without a word it is one. -/
def glue (c : Char) : List (List Char) → List (List Char)
  | [] => [[c]]
  | w :: ws => (c :: w) :: ws

/-- The maximal runs of characters that are not white space. -/
def words : List Char → List (List Char)
  | [] => []
  | c :: cs =>
    if isBlank c then words cs
    else
      match cs with
      | [] => [[c]]
      | d :: _ => if isBlank d then [c] :: words cs else glue c (words cs)

/-- The words with one space between neighbours. -/
def unwords : List (List Char) → List Char
  | [] => []
  | [w] => w
  | w :: v :: ws => w ++ ' ' :: unwords (v :: ws)

/-- The text with every run of white space made one space, and none at the ends. -/
def collapse (s : String) : String := String.ofList (unwords (words s.toList))

end RevisionLog.Text
