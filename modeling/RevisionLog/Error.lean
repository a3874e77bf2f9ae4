import RevisionLog.Text.Quoted

/-!
# Errors of the log

An error of the relational engine never leaves a store as it is: it is classed first, and kept as
the cause.

* `Cause` — what an error was caused by: its text and the texts of what caused it in turn.
* `LogError` — the four kinds of failure, with `code`, `message` and the whole `chain` of causes.
-/

namespace RevisionLog

/-- The text of a cause and the texts of the causes behind it, nearest first. -/
structure Cause where
  text : String
  behind : List String := []
deriving DecidableEq, Repr

/-- How an operation on a log fails. -/
inductive LogError
  /-- Another writer has put a record in the same place: the compare-and-swap is lost. -/
  | keyExists (code : String) (cause : Cause)
  /-- The engine failed in any other way. -/
  | backend (code : String) (cause : Cause)
  /-- The file system failed. -/
  | io (cause : Cause)
  /-- A statement of the schema failed. -/
  | setup (statement : String) (source : LogError)
deriving DecidableEq, Repr

namespace LogError

/-- Whether the error is a lost compare-and-swap. -/
def isKeyExists : LogError → Bool
  | keyExists .. => true
  | _ => false

/-- The engine's code for the failure. -/
def code : LogError → String
  | keyExists code _ | backend code _ => code
  | io _ => "io"
  | setup _ source => source.code

/-- What the error says. -/
def message : LogError → String
  | keyExists .. => "key exists"
  | backend code cause => "backend error (" ++ code ++ "): " ++ cause.text
  | io cause => "io error: " ++ cause.text
  | setup statement source =>
    "schema setup failed executing " ++ Text.quote statement ++ ": " ++ source.message

/-- What each cause behind the error says, nearest first. -/
def chain : LogError → List String
  | keyExists _ cause | backend _ cause | io cause => cause.text :: cause.behind
  | setup _ source => source.message :: source.chain

/-- What the nearest cause says. -/
def source : LogError → String
  | keyExists _ cause | backend _ cause | io cause => cause.text
  | setup _ source => source.message

end LogError

end RevisionLog
