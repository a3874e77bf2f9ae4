import RevisionLog.Sql.Refusal
import RevisionLog.Sql.Relation

/-!
# Names in view

* `Typed` — a term with what comparisons take from it.
* `Range` — a table in view; `Scope` — what a query or a change has in view.
* `Scope.find` — what a name stands for in a scope.
* `Typed.comparison` — how two terms are compared.
-/

namespace RevisionLog.Sql

/-- A term with what comparisons take from it. -/
structure Typed where
  term : Term
  affinity : Option Affinity := none
  /-- The name of its collation. -/
  collation : Option String := none
  /-- The collation is asked for in so many words. -/
  explicit : Bool := false
  /-- The column that the term is. -/
  column : Option String := none
  /-- The function of many rows in it, and its place. -/
  summary : Option (String × Nat) := none

instance : Inhabited Typed := ⟨{ term := .const .null }⟩

/-- A column in view. -/
structure Column where
  name : String
  affinity : Option Affinity := none
  collation : Option String := none

/-- A table in view. -/
structure Range where
  /-- The name that the table goes by. -/
  name : Option String
  database : Option String := none
  columns : List Column
  /-- Where the columns begin in a row. -/
  start : Nat := 0
  /-- The column of ids. -/
  id : Option Nat := none
  kind : JoinKind := {}
  /-- Columns that are one with those of the tables in front. -/
  shared : List String := []
  /-- Its columns are known only with its name in front. -/
  named : Bool := false

/-- What functions of many rows are where they stand. -/
inductive SummaryPlace
  /-- Their values belong to a group. -/
  | grouped
  /-- They are refused once all else has been taken. -/
  | misplaced
  /-- They are refused. -/
  | forbidden
deriving DecidableEq, Repr

/-- What is in view. -/
structure Scope where
  ranges : List Range
  /-- The columns of the answer, by their names. -/
  outputs : List (String × Typed) := []
  summaries : SummaryPlace := .forbidden

/-! ## Tables -/

/-- Columns of a declared affinity. -/
def columnOf (name : String) (affinity : Affinity) : Column where
  name
  affinity := some affinity
  collation := some "BINARY"

/-- The columns of the log. -/
def logColumns : List Column :=
  [{ name := "id", affinity := some .integer }, columnOf "name" .text, columnOf "created" .integer,
    columnOf "deleted" .integer, columnOf "create_revision" .integer,
    columnOf "prev_revision" .integer, columnOf "lease" .integer, columnOf "value" .blob,
    columnOf "old_value" .blob]

/-- The log in view. -/
def logRange (name : String) : Range where
  name := some name
  database := some "main"
  columns := logColumns
  id := some 0

/-- The names of the catalog. -/
def catalogNames : List String := ["sqlite_master", "sqlite_schema"]

/-- The table of a name, with its columns, if there is one. -/
def tableNamed? (db : Database) (database : Option String) (name : String) :
    Option (BaseTable × Range) :=
  let isMain := (database.map fun d => sameName d "main").getD true
  let isTemp := (database.map fun d => sameName d "temp").getD true
  let range (columns : List Column) : Range :=
    { name := some name, database := some "main", columns }
  let catalogRange : Range :=
    range [columnOf "type" .text, columnOf "name" .text, columnOf "tbl_name" .text,
      columnOf "rootpage" .integer, columnOf "sql" .text]
  if isMain && sameName name tableName && db.table.isSome then some (.log, logRange name)
  else if isMain && sameName name "sqlite_sequence" && db.hasCounters then
    some (.counters, range [columnOf "name" .blob, columnOf "seq" .blob])
  else if isMain && catalogNames.any (sameName name) then some (.catalog, catalogRange)
  else if isTemp && ["sqlite_temp_master", "sqlite_temp_schema"].any (sameName name) then
    some (.empty, catalogRange)
  else if isMain && db.otherTables.any (sameName name) then
    some (.empty, range [columnOf "a" .blob])
  else none

/-- A name behind that of its database. -/
def qualified (database : Option String) (name : String) : String :=
  (database.map (· ++ ".")).getD "" ++ name

/-- Refuses an index that does not lead to the rows of a table. -/
def checkIndex (db : Database) (t : BaseTable) (index : Option String) : Except Refusal Unit :=
  match index with
  | none => .ok ()
  | some name =>
    if t == .log && db.indexes.any (sameName ·.name name) then .ok () else .error (.noIndex name)

/-! ## Names -/

/-- The names of ids that columns need not have. -/
def isRowId (name : String) : Bool := ["rowid", "oid", "_rowid_"].any (sameName name)

namespace Range

/-- The table is the one that a path in front of a column names. -/
def goesBy (r : Range) (path : List String) : Bool :=
  let named (t : String) : Bool := (r.name.map (sameName t)).getD false
  match path with
  | [] => !r.named
  | [t] => named t
  | [d, t] => named t && (r.database.map (sameName d)).getD false
  | _ => false

/-- The number of columns. -/
def width (r : Range) : Nat := r.columns.length

/-- A column by its place, in a scope that is `level` scopes outside of the innermost. -/
def columnAt (r : Range) (level index : Nat) (c : Column) : Typed where
  term := .column level (r.start + index)
  affinity := c.affinity
  collation := c.collation
  column := some c.name

/-- The column of a name. -/
def column? (r : Range) (level : Nat) (name : String) : Option Typed :=
  (r.columns.zipIdx.find? fun (c, _) => sameName c.name name).map fun (c, i) => r.columnAt level i c

/-- The column of ids. -/
def rowId (r : Range) (level : Nat) : Typed :=
  match r.id with
  | some i => {
      term := .column level (r.start + i)
      affinity := some .integer
      column := (r.columns[i]?).map (·.name) }
  | none => { term := .const .null, affinity := some .integer, column := some "rowid" }

end Range

/-- A name in a scope stands for one thing, for more than one or for none. -/
inductive Found
  | nothing
  | one (t : Typed)
  | many

namespace Scope

/-- What a name stands for that ranges are left to say of. -/
def findFrom (level : Nat) (path : List String) (name : String) : Found → List Range → Found
  | f, [] => f
  | f, r :: rs =>
    match if r.goesBy path then r.column? level name else none, f with
    | none, f => findFrom level path name f rs
    | some t, .nothing => findFrom level path name (.one t) rs
    | some _, .many => .many
    | some t, .one u =>
      if !r.shared.any (sameName name) then .many
      else if !r.kind.keepsRight then findFrom level path name (.one u) rs
      else if !r.kind.keepsLeft then findFrom level path name (.one t) rs
      else
        findFrom level path name
          (.one { t with term := .firstKnown [u.term, t.term], column := none }) rs

/-- What a path stands for in the scope. -/
def find (s : Scope) (level : Nat) (path : List String) : Found :=
  let name := path.getLast?.getD ""
  match findFrom level path.dropLast name .nothing s.ranges with
  | .nothing =>
    match s.ranges.filter (·.goesBy path.dropLast), isRowId name with
    | [r], true => .one (r.rowId level)
    | _, _ =>
      match path, s.outputs.find? fun (n, _) => sameName n name with
      | [_], some (_, t) =>
        .one (if level == 0 then t else { t with term := .outside level t.term })
      | _, _ => .nothing
  | f => f

end Scope

/-! ## Comparisons -/

/-- The affinity under which two terms are compared. -/
def comparedAffinity : Option Affinity → Option Affinity → Option Affinity
  | some a, some b => some (if a.isNumeric || b.isNumeric then .numeric else .blob)
  | some a, none | none, some a => some a
  | none, none => none

/-- The name of the collation under which two terms are compared. -/
def comparedCollation (a b : Typed) : Option String :=
  if a.explicit then a.collation else if b.explicit then b.collation else a.collation.or b.collation

/-- What a term takes over from those that it is made of. -/
def Typed.made (term : Term) (parts : List Typed) : Typed where
  term
  collation := (parts.find? (·.explicit)).bind (·.collation)
  explicit := parts.any (·.explicit)
  summary := parts.findSome? (·.summary)

end RevisionLog.Sql
