import RevisionLog.Error
import RevisionLog.Statement.Template

/-!
# Dialects

A `Dialect` is what a store knows of its engine: the statements in the engine's form, how an
insertion answers its id, the isolation to ask for, and how the engine's errors (of type `ε`) are
classed. `Dialect.logError` makes an engine's error an error of the log.
-/

namespace RevisionLog

/-- The least isolation asked for when a read and a write belong together. -/
inductive Isolation
  | default
  | readCommitted
  | repeatableRead
  | serializable
deriving DecidableEq, Repr

namespace Isolation

/-- The levels in ascending order. -/
def rank : Isolation → Nat
  | default => 0
  | readCommitted => 1
  | repeatableRead => 2
  | serializable => 3

/-- Weaker levels come first. -/
instance : Ord Isolation where
  compare a b := compare a.rank b.rank

/-- The level's name. -/
def name : Isolation → String
  | default => "Default"
  | readCommitted => "ReadCommitted"
  | repeatableRead => "RepeatableRead"
  | serializable => "Serializable"

end Isolation

/-- What an engine's error means to the log. -/
inductive ErrorClass
  /-- A record is in the place already. -/
  | keyExists
  /-- Anything else. -/
  | other
deriving DecidableEq, Repr

/-- The name of the class. -/
def ErrorClass.name : ErrorClass → String
  | keyExists => "KeyExists"
  | other => "Other"

/-- What a store knows of an engine whose errors are of type `ε`. -/
structure Dialect (ε : Type) where
  name : String
  flavor : Flavor
  /-- Whether an insertion answers the new id itself. -/
  insertReturning : Bool := true
  isolation : Isolation := .default
  classify : ε → ErrorClass
  errorCode : ε → String
  /-- The error as a cause. -/
  cause : ε → Cause

namespace Dialect

variable {ε : Type}

/-- The statements in the engine's form. -/
def templates (d : Dialect ε) : Templates := .build d.flavor

/-- The dialect with another way for an insertion to answer its id. -/
def withInsertReturning (d : Dialect ε) (insertReturning : Bool) : Dialect ε :=
  { d with insertReturning }

/-- The dialect at another isolation. -/
def withIsolation (d : Dialect ε) (isolation : Isolation) : Dialect ε := { d with isolation }

/-- An engine's error as an error of the log. -/
def logError (d : Dialect ε) (e : ε) : LogError :=
  match d.classify e with
  | .keyExists => .keyExists (d.errorCode e) (d.cause e)
  | .other => .backend (d.errorCode e) (d.cause e)

/-- The insertion that goes with `insertReturning`. -/
def insertSql (d : Dialect ε) : String :=
  if d.insertReturning then d.templates.insert else d.templates.insertLastInsertId

/-- The settings that a description of the dialect shows, each with its text. -/
def described (d : Dialect ε) : List (String × String) :=
  [("name", Text.quote d.name), ("insert_returning", toString d.insertReturning),
    ("isolation", d.isolation.name)]

/-- The dialect on one line. -/
def describe (d : Dialect ε) : String :=
  "Dialect \x7b " ++ String.join (d.described.map fun (k, v) => k ++ ": " ++ v ++ ", ") ++
    ".. \x7d"

/-- The dialect with a setting on each line. -/
def describeLines (d : Dialect ε) : String :=
  "Dialect \x7b\n" ++
    String.join (d.described.map fun (k, v) => "    " ++ k ++ ": " ++ v ++ ",\n") ++ "    ..\n\x7d"

end Dialect

end RevisionLog
