import RevisionLog.Engine.Cell

/-!
# The syntax of SQL

* `Expr` — expressions; `Query` — queries, which expressions may hold.
* `Statement` — what a text asks for.
-/

namespace RevisionLog.Sql

/-- A name within a statement. -/
structure Ident where
  text : String
  /-- The mark in front of it, if it stands between marks. -/
  mark : Option Char := none
  /-- How many bytes are in front of it. -/
  offset : Nat := 0
deriving DecidableEq, Repr

/-- In double quotes what names nothing is text. -/
def Ident.isLoose (i : Ident) : Bool := i.mark == some '"'

/-- Operators in front of an operand. -/
inductive Unary
  | not
  | negate
  | plus
  | complement
  | isNull
  | notNull
deriving DecidableEq, Repr

/-- Operators between two operands. -/
inductive Binary
  | or
  | and
  | eq
  | ne
  | is
  | isNot
  | lt
  | le
  | gt
  | ge
  | bitAnd
  | bitOr
  | shiftLeft
  | shiftRight
  | add
  | subtract
  | multiply
  | divide
  | modulo
  | concat
deriving DecidableEq, Repr

/-- How queries are put together. -/
inductive Junction
  | unionAll
  | union
  | except
  | intersect
deriving DecidableEq, Repr

/-- What a junction is called. -/
def Junction.name : Junction → String
  | unionAll => "UNION ALL"
  | union => "UNION"
  | except => "EXCEPT"
  | intersect => "INTERSECT"

/-- How a table is joined to those in front of it. -/
structure JoinKind where
  /-- Columns of one name are equal. -/
  natural : Bool := false
  /-- Rows in front stay without a partner. -/
  keepsLeft : Bool := false
  /-- Rows of the table stay without a partner. -/
  keepsRight : Bool := false
deriving DecidableEq, Repr

mutual

/-- Expressions. -/
inductive Expr
  | const (c : Cell) (offset : Nat)
  /-- Digits; a minus in front of them may belong to them. -/
  | integer (n : Nat) (offset : Nat)
  /-- An integer in hexadecimal. -/
  | hex (n : Nat) (text : String) (offset : Nat)
  /-- A parameter by its number. -/
  | parameter (n : Nat) (offset : Nat)
  /-- A column, which the names of its table and of the database may precede. -/
  | column (path : List Ident)
  | unary (op : Unary) (e : Expr)
  | binary (op : Binary) (a b : Expr)
  | between (e lower upper : Expr)
  | within (e : Expr) (items : List Expr)
  | withinQuery (e : Expr) (q : Query)
  | exists (q : Query)
  | subquery (q : Query)
  | row (items : List Expr)
  /-- The value beside the first case that holds, or equals the operand. -/
  | choice (operand : Option Expr) (cases : List (Expr × Expr)) (otherwise : Option Expr)
  | cast (e : Expr) (type : String)
  | collate (e : Expr) (name : String)
  | call (name : Ident) (args : Arguments)
  /-- What only a trigger may do. -/
  | raise

/-- What a function is called on. -/
inductive Arguments
  /-- A star stands for all rows. -/
  | star (filter : Option Expr)
  | list (distinct : Bool) (args : List Expr) (order : List SortTerm) (filter : Option Expr)

/-- What rows are ordered by. -/
inductive SortTerm
  | mk (e : Expr) (descending : Bool) (nullsFirst : Option Bool)

/-- A column of an answer. -/
inductive Output
  /-- An expression, by its name or as it is written. -/
  | expr (e : Expr) (asName : Option String) (span : String)
  | all
  | allOf (table : String)

/-- What a query reads. -/
inductive Source
  /-- A table, or what a function answers; the index that is to lead to its rows may be named. -/
  | table (database : Option String) (name : String) (args : Option (List Expr))
      (index : Option String)
  | query (q : Query)
  | group (sources : List Joined)

/-- A source, joined to those in front of it. -/
inductive Joined
  | mk (kind : JoinKind) (source : Source) (asName : Option String) (on : Option Expr)
      (shared : List String)

/-- A query without others beside it. -/
inductive Core
  | select (distinct : Bool) (outputs : List Output) (sources : List Joined)
      (filter : Option Expr) (group : List Expr) (having : Option Expr)
  | values (rows : List (List Expr))

/-- A query. -/
inductive Query
  | mk (named : List NamedQuery) (first : Core) (others : List (Junction × Core))
      (order : List SortTerm) (limit offset : Option Expr)

/-- A query that others know by its name. -/
inductive NamedQuery
  | mk (name : String) (columns : List String) (q : Query)

end

instance : Inhabited Expr := ⟨.const .null 0⟩

/-- The expression is a zero, as it is written. -/
def Expr.isZero : Expr → Bool
  | .integer n _ | .hex n _ _ => n == 0
  | _ => false

/-- Two expressions and an operator between them. A zero beside `AND` is all that is left. -/
def Expr.joined (op : Binary) (a b : Expr) : Expr :=
  if op == .and && (a.isZero || b.isZero) then .integer 0 0 else .binary op a b

/-- What is done where a row may not stand beside another. -/
structure Upsert where
  /-- Columns of the index in question, and which rows are in it, if one is named. -/
  target : Option (List SortTerm × Option Expr)
  /-- Columns with their new values; without them the other row stays as it is. -/
  changes : Option (List (List String × Expr))
  filter : Option Expr

/-- A table that a statement changes. -/
structure Target where
  database : Option String
  name : String
  asName : Option String := none
  /-- The index that is to lead to its rows. -/
  index : Option String := none
deriving DecidableEq, Repr

/-- What a text asks for. -/
inductive Statement
  | query (q : Query)
  /-- Rows to put in; without a query one row of nothing but NULL. -/
  | insert (target : Target) (columns : Option (List String)) (rows : Option Query)
      (upserts : List Upsert) (returning : List Output)
  | delete (target : Target) (filter : Option Expr) (returning : List Output)
  | dropIndex (ifExists : Bool) (database : Option String) (name : String)
  | dropTable (ifExists : Bool) (database : Option String) (name : String)
  /-- An empty text. -/
  | nothing

end RevisionLog.Sql
