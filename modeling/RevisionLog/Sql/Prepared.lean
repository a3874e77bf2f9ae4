import RevisionLog.Sql.Resolution
import RevisionLog.Sql.Statement

/-!
# Prepared statements

A `Prepared` statement has all its names resolved and can be run on the database that it was
prepared for.

* `Action` — what is to be done.
* `Prepared.of` — a statement with its names resolved in a database.
-/

namespace RevisionLog.Sql

/-- What two rows cannot have in common. -/
inductive Slot
  | id
  /-- The name and the predecessor. -/
  | place
deriving DecidableEq, Repr

/-- What is done with a row that may not stand beside another. -/
structure Remedy where
  /-- What the rows have in common, if it matters. -/
  slot : Option Slot
  /-- New values of columns of the other row; without them the row is left out. -/
  changes : Option (List (Nat × Term))
  test : Term

/-- What is to be done. -/
inductive Action
  | nothing
  | read (r : Relation)
  /-- Rows for some columns are put into the log. -/
  | insert (columns : List Nat) (rows : Relation) (remedies : List Remedy) (returning : List Term)
  | delete (test : Term) (returning : List Term)
  | dropIndex (name : String)
  | dropLog
  | dropTable (name : String)

/-- The action may write. -/
def Action.writes : Action → Bool
  | nothing | read _ => false
  | _ => true

/-- A statement with its names resolved. -/
structure Prepared where
  action : Action
  /-- The number of parameters. -/
  parameters : Nat
  /-- The names of the columns that are answered. -/
  titles : List String := []

namespace Prepared

/-- Refuses to change a table other than the log. -/
def checkTarget (db : Database) (t : Target) : Except Refusal Unit :=
  match tableNamed? db t.database t.name with
  | none => .error (.noTable (qualified t.database t.name))
  | some (table, _) => do
    checkIndex db table t.index
    if table != .log then throw { said := "table " ++ t.name ++ " may not be modified" }

/-- The place of a column of the log. -/
def logColumn? (name : String) : Option Nat :=
  (logColumns.findIdx? fun c => sameName c.name name).or (if isRowId name then some 0 else none)

/-- Columns that are answered of a row of the log. -/
def returned (n : Nat) (outputs : List Output) : Resolve (List Answered) := do
  if outputs.any fun o => match o with
    | .allOf _ => true
    | _ => false
  then throw { said := "RETURNING may not use \"TABLE.*\" wildcards" }
  let es := outputs.filterMap fun o => match o with
    | .expr e _ _ => some e
    | _ => none
  Survey.exprs n (← get).database [] es
  let ranges := [{ logRange tableName with database := none }]
  Resolve.answered n { scopes := [{ ranges }] } ranges outputs

/-- The slot that columns of an index stand for. -/
def slotOf? (t : Table) (columns : List (String × Option String)) : Option Slot :=
  let plain := columns.all fun (_, collation) =>
    (collation.map fun c => sameName c "binary").getD true
  let places := columns.filterMap fun (name, _) => logColumn? name
  if !plain then none
  else if places == [0] then some .id
  else if t.isUnique && (places == [1, 5] || places == [5, 1]) then some .place
  else none

/-- New values of columns. -/
def changes (n : Nat) (s : Surroundings) :
    List (List String × Expr) → Resolve (List (Nat × Term))
  | [] => return []
  | (names, e) :: rest => do
    let ts ← Resolve.operands n s e
    Resolve.settle
    if ts.length != names.length then
      if names.length == 1 then Resolve.postpone (.columnCount ts.length 1)
      else
        throw {
          said := toString names.length ++ " columns assigned " ++ toString ts.length ++ " values" }
    let one ← (names.zip ts).mapM fun (name, t) =>
      match logColumn? name with
      | some i => return (i, t.term)
      | none => throw { said := "no such column: " ++ name }
    return one ++ (← changes n s rest)

/-- The log in view of a change. -/
def logInView (target : Target) : Range := logRange (target.asName.getD tableName)

/-- What rows may not have in common, where a remedy says it. -/
def slot (n : Nat) (t : Table) (target : Target) (u : Upsert) : Resolve (Option Slot) := do
  match u.target with
  | none => return none
  | some (terms, _) =>
    let columns ← terms.mapM fun (.mk e _ _) => do
      let typed ← Resolve.whole n { scopes := [{ ranges := [logInView target] }] } e
      return (typed.column.getD "", e.uncollated.2)
    match slotOf? t columns with
    | some slot => return slot
    | none =>
      throw {
        said := "ON CONFLICT clause does not match any PRIMARY KEY or UNIQUE constraint" }

/-- What is done with a row that may not stand beside another. -/
def remedy (n : Nat) (target : Target) (slot : Option Slot) (u : Upsert) : Resolve Remedy := do
  let excluded := { logRange "excluded" with start := logColumns.length, named := true }
  let both : Surroundings := { scopes := [{ ranges := [logInView target, excluded] }] }
  let made ← match u.changes with
    | some cs => do pure (some (← changes n both cs))
    | none => pure none
  let test ← match u.filter with
    | some e => do pure (← Resolve.whole n both e).term
    | none => pure (.const (.flag true))
  return { slot, changes := made, test }

/-- The rows to put in, and the number of their columns. -/
def newRows (n : Nat) (rows : Option Query) : Resolve (Relation × Nat) :=
  match rows with
  | none => return (.unit, 0)
  | some (.mk [] (.values [row]) [] _ _ _) => do
    let ts ← row.mapM (Resolve.whole n {})
    return (.project .unit (ts.map (·.term)), ts.length)
  | some q => do
    let answer ← Resolve.nested n {} q
    Resolve.finish
    return (answer.relation, answer.columns.length)

/-- What puts rows into the log. -/
def insertion (n : Nat) (t : Table) (target : Target) (columns : Option (List String))
    (rows : Option Query) (upserts : List Upsert) (returning : List Output) :
    Resolve (Action × List String) := do
  let places ← match columns with
    | none => pure ((List.range logColumns.length))
    | some names => names.mapM fun name =>
      match logColumn? name with
      | some i => pure i
      | none =>
        throw {
          said := "table " ++ qualified target.database target.name ++
            " has no column named " ++ name }
  let (relation, width) ← newRows n rows
  if rows.isSome && width != places.length then
    throw {
      said := match columns with
        | some _ => toString width ++ " values for " ++ toString places.length ++ " columns"
        | none =>
          "table " ++ qualified target.database target.name ++ " has " ++
            toString places.length ++ " columns but " ++ toString width ++
            " values were supplied" }
  let slots ← upserts.mapM (slot n t target)
  Resolve.finish
  let remedies ← (slots.zip upserts).mapM fun (slot, u) => remedy n target slot u
  Resolve.finish
  let outputs ← returned n returning
  return (.insert places relation remedies (outputs.map (·.typed.term)), outputs.map (·.title))

/-- What removes rows of the log. -/
def removal (n : Nat) (target : Target) (filter : Option Expr) (returning : List Output) :
    Resolve (Action × List String) := do
  let test ← match filter with
    | some e => do pure (← Resolve.whole n { scopes := [{ ranges := [logInView target] }] } e).term
    | none => pure (.const (.flag true))
  Resolve.finish
  let outputs ← returned n returning
  return (.delete test (outputs.map (·.typed.term)), outputs.map (·.title))

/-- What drops an index. -/
def indexDrop (db : Database) (ifExists : Bool) (database : Option String) (name : String) :
    Except Refusal Action :=
  let isMain := (database.map fun d => sameName d "main").getD true
  if isMain && db.hasIndex name then .ok (.dropIndex name)
  else if ifExists then .ok .nothing
  else .error (.noIndex (qualified database name))

/-- What drops a table. -/
def tableDrop (db : Database) (ifExists : Bool) (database : Option String) (name : String) :
    Except Refusal Action :=
  match tableNamed? db database name with
  | none => if ifExists then .ok .nothing else .error (.noTable (qualified database name))
  | some (.log, _) => .ok .dropLog
  | some (.empty, _) => .ok (.dropTable name)
  | some _ => .error { said := "table " ++ name ++ " may not be dropped" }

/-- What a statement does, and the names of the columns that it answers. -/
def actionOf (n : Nat) (db : Database) : Statement → Resolve (Action × List String)
  | .nothing => return (.nothing, [])
  | .query q => do
    let answer ← Resolve.nested n {} q
    return (.read answer.relation, answer.columns.map (·.title))
  | .insert target columns rows upserts returning => do
    checkTarget db target
    match db.table with
    | some t => insertion n t target columns rows upserts returning
    | none => return (.nothing, [])
  | .delete target filter returning => do
    checkTarget db target
    removal n target filter returning
  | .dropIndex ifExists database name => return (← indexDrop db ifExists database name, [])
  | .dropTable ifExists database name => return (← tableDrop db ifExists database name, [])

/-- A statement with its names resolved in a database. -/
def of (db : Database) (p : Parsed) : Except Refusal Prepared := do
  let act : Resolve (Action × List String) := do
    let r ← actionOf p.depth db p.statement
    Resolve.finish
    return r
  let ((action, titles), _) ← act.run { database := db }
  return { action, titles, parameters := p.parameters }

end Prepared

end RevisionLog.Sql
