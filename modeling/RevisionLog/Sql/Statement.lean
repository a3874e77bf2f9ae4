import RevisionLog.Sql.Grammar

/-!
# Statements as they are written

* `Parsed` — a statement with what its text says beside it.
* `Parsed.ofText` — the first statement of a text.
-/

namespace RevisionLog.Sql

namespace Read

/-- Columns and their new values. -/
def changes (n : Nat) : Nat → Read (List (List String × Expr))
  | 0 => throw .tooDeep
  | m + 1 => do
    let columns ← if (← peek).isMark "(" then names n else do pure [← name]
    mark "="
    let e ← expr n .lowest
    if ← mark? "," then return (columns, e) :: (← changes n m) else return [(columns, e)]

/-- The columns that a change answers, if it answers any. -/
def returning (n : Nat) : Read (List Output) := do
  if ← word? "RETURNING" then outputs n else return []

/-- What is done where a row may not stand beside another, and the columns that are answered. -/
def upserts (n : Nat) : Nat → Read (List Upsert × List Output)
  | 0 => throw .tooDeep
  | m + 1 => do
    if !(← word? "ON") then return ([], ← returning n)
    word "CONFLICT"
    let target ← if ← mark? "(" then do
        let terms ← sortTerms n
        mark ")"
        pure (some (terms, ← behind? n "WHERE"))
      else pure none
    word "DO"
    let upsert : Upsert ← if ← word? "NOTHING" then pure ⟨target, none, none⟩
      else do
        word "UPDATE"
        word "SET"
        let changes ← changes n n
        pure ⟨target, some changes, ← behind? n "WHERE"⟩
    if target.isNone then return ([upsert], ← returning n)
    let (more, outputs) ← upserts n m
    return (upsert :: more, outputs)

/-- The table that a statement changes. -/
def target : Read Target := do
  let (database, table) ← fullName
  let asName ← if ← word? "AS" then do pure (some (← name)) else pure none
  return { database, name := table, asName }

/-- Rows to put in, behind `INSERT` or `REPLACE`. -/
def insertion (n : Nat) : Read Statement := do
  word "INTO"
  let target ← target
  let columns ← if (← peek).isMark "(" then do pure (some (← names n)) else pure none
  if ← word? "DEFAULT" then
    word "VALUES"
    return .insert target columns none [] (← returning n)
  if !(← atQuery) then unexpected
  let q ← query n
  let (upserts, outputs) ← upserts n n
  return .insert target columns (some q) upserts outputs

/-- Rows to remove, behind `DELETE`. -/
def removal (n : Nat) : Read Statement := do
  word "FROM"
  let target ← target
  let target := { target with index := ← index? }
  let filter ← behind? n "WHERE"
  return .delete target filter (← returning n)

/-- Something to drop, behind `DROP`. -/
def drop : Read Statement := do
  if ← word? "INDEX" then
    let ifExists ← condition
    let (database, index) ← fullName
    return .dropIndex ifExists database index
  word "TABLE"
  let ifExists ← condition
  let (database, table) ← fullName
  return .dropTable ifExists database table
where
  condition : Read Bool := do
    if !(← word? "IF") then return false
    word "EXISTS"
    return true

/-- A statement, up to its end. -/
def statement (n : Nat) : Read Statement := do
  if (← peek).kind == .finish then return .nothing
  let s ← if ← atQuery then do pure (.query (← query n))
    else if ← word? "INSERT" then insertion n
    else if ← word? "DELETE" then removal n
    else if ← word? "DROP" then drop
    else unexpected
  if (← peek).kind == .finish then
    settle
    return s
  mark ";"
  return s

end Read

/-- A statement, and what its text says beside it. -/
structure Parsed where
  statement : Statement
  /-- The number of parameters. -/
  parameters : Nat
  /-- The text behind the statement. -/
  rest : String
  /-- A bound on how deep the statement goes. -/
  depth : Nat

/-- The first statement of a text. -/
def Parsed.ofText (text : String) : Except Refusal Parsed := do
  let tokens := Token.ofText text
  let depth := 8 * tokens.length + 8
  let (statement, r) ← (Read.statement depth).run { tokens }
  return {
    statement, depth
    parameters := r.highest
    rest :=
      match tokens.getLast? with
      | some t => if t.kind == .symbol ";" then String.ofList (t.rest.drop 1) else ""
      | none => "" }

end RevisionLog.Sql
