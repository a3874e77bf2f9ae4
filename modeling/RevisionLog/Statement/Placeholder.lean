/-!
# Parameter markers

Statements are written with a bare `?` for each parameter. `Placeholder.apply` turns the markers
into the form that an engine binds; text in single quotes is left as it is.
-/

namespace RevisionLog

/-- The form of marker that an engine binds. -/
inductive Placeholder
  /-- A bare `?` for each parameter. -/
  | positional
  /-- The parameters counted from one: `$1`, `:1`, `?1`, … -/
  | numbered (lead : String)
deriving DecidableEq, Repr

namespace Placeholder

/-- The marker of the `n`th parameter. -/
def marker (lead : List Char) (n : Nat) : List Char := lead ++ Nat.toDigits 10 n

/-- Numbers the markers outside quotes from `n` on; `quoted` tells whether the text before ended
inside quotes. -/
def numberFrom (lead : List Char) : Bool → Nat → List Char → List Char
  | _, _, [] => []
  | quoted, n, c :: cs =>
    if c == '\'' then c :: numberFrom lead (!quoted) n cs
    else if c == '?' && !quoted then marker lead n ++ numberFrom lead quoted (n + 1) cs
    else c :: numberFrom lead quoted n cs

/-- The statement with its markers in the engine's form. -/
def apply : Placeholder → String → String
  | positional, sql => sql
  | numbered lead, sql => String.ofList (numberFrom lead.toList false 1 sql.toList)

end Placeholder

end RevisionLog
