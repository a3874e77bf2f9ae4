import RevisionLog.Engine.Fault

/-!
# Refused texts

`Refusal` — why a text is not taken as a statement; `Refusal.fault` — the same as a fault of the
engine.
-/

namespace RevisionLog.Sql

/-- Why a text is refused. -/
structure Refusal where
  said : String
  /-- How many bytes are in front of what is refused, where it has a place. -/
  offset : Option Nat := none
  code : Int := 1
deriving DecidableEq, Repr

namespace Refusal

/-- The refusal of a text as a fault. -/
def fault (sql : String) (r : Refusal) : Fault :=
  match r.offset with
  | some offset => .refused r.said sql offset
  | none => .failure r.code (some r.said)

/-- There is no such table. -/
def noTable (name : String) : Refusal := { said := "no such table: " ++ name }

/-- There is no such index. -/
def noIndex (name : String) : Refusal := { said := "no such index: " ++ name }

/-- A row stands where one value should. -/
def rowMisused : Refusal := { said := "row value misused" }

/-- A query with another number of columns than it should have. -/
def columnCount (found needed : Nat) : Refusal where
  said := "sub-select returns " ++ toString found ++ " columns - expected " ++ toString needed

/-- The text goes deeper than is read. -/
def tooDeep : Refusal := { said := "parser stack overflow" }

end Refusal

end RevisionLog.Sql
