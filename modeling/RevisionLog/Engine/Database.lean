import RevisionLog.Engine.Query
import RevisionLog.Schema

/-!
# Databases

* `Definition` — the statements that make the table and its indexes, with their text.
* `Database` — the table of the log, if it is there, among other things that bear names.
* `Database.define`, `Database.execute` — what a definition, or its text, makes of a database.
* `Schema.sqlite` — the table, its indexes and the migrations.
-/

namespace RevisionLog

/-- A statement that defines something. -/
inductive Definition
  | table
  | index (index : Index) (ifMissing : Bool)
deriving DecidableEq, Repr

namespace Definition

/-- The text of the table's definition. -/
def tableSql : String :=
  "CREATE TABLE " ++ tableName ++ " (
        id              INTEGER PRIMARY KEY AUTOINCREMENT,
        name            VARCHAR(630),
        created         INTEGER,
        deleted         INTEGER,
        create_revision INTEGER,
        prev_revision   INTEGER,
        lease           INTEGER,
        value           BLOB,
        old_value       BLOB
    )"

/-- The text of a definition. -/
def sql : Definition → String
  | table => tableSql
  | index i ifMissing =>
    (if i.unique then "CREATE UNIQUE INDEX " else "CREATE INDEX ") ++
      (if ifMissing then "IF NOT EXISTS " else "") ++ i.name ++ " ON " ++ tableName ++ " (" ++
      String.intercalate ", " i.columns ++ ")"

end Definition

namespace Index

/-- Rows by name. -/
def byName : Index := ⟨"kine_name_index", ["name"], false⟩

/-- Rows by name and id. -/
def byNameId : Index := ⟨"kine_name_id_index", ["name", "id"], false⟩

/-- Rows by id, with their tombstone marks. -/
def byIdDeleted : Index := ⟨"kine_id_deleted_index", ["id", "deleted"], false⟩

/-- Rows by predecessor. -/
def byPrevRevision : Index := ⟨"kine_prev_revision_index", ["prev_revision"], false⟩

/-- The place of a row among the versions of its name, which only one row can have. -/
def byPlace : Index := ⟨"kine_name_prev_revision_uindex", ["name", "prev_revision"], true⟩

/-- Rows by name, newest first. -/
def byNewest : Index := ⟨"kine_list_query_index", ["name", "id DESC", "deleted"], false⟩

end Index

namespace Definition

/-- The definitions of the current shape, in order. -/
def creation : List Definition :=
  [table, index .byName false, index .byNameId false, index .byIdDeleted false,
    index .byPrevRevision false, index .byPlace false, index .byNewest false]

/-- The definitions that the migrations consist of, by their number. -/
def migrations : List (Option Definition) := [none, some (index .byNewest true)]

/-- Every definition there is. -/
def all : List Definition := creation ++ migrations.filterMap id

end Definition

/-- The schema for SQLite. -/
def Schema.sqlite : Schema where
  existsSql := "SELECT 1 FROM sqlite_master WHERE type = 'table' AND name = ?1"
  tableName := RevisionLog.tableName
  statements := Definition.creation.map (·.sql)
  migrations := Definition.migrations.map fun m => (m.map (·.sql)).getD ""

/-- A database. -/
structure Database where
  /-- The table of the log. -/
  table : Option Table := none
  /-- A view has the table's name. -/
  hasView : Bool := false
  /-- A table with an id counter was made at some time, and with it the table of counters. -/
  hasCounters : Bool := false
  /-- Other tables. -/
  otherTables : List String := []
  /-- Indexes of other tables. -/
  otherIndexes : List String := []

/-- Two names that the engine takes for one: ASCII letters count in either case. -/
def sameName (a b : String) : Bool := a.map Char.toLower == b.map Char.toLower

namespace Database

/-- The indexes of the table. -/
def indexes (db : Database) : List Index := (db.table.map (·.indexes)).getD []

/-- Something among the indexes has the name. -/
def hasIndex (db : Database) (name : String) : Bool :=
  db.indexes.any (sameName ·.name name) || db.otherIndexes.any (sameName · name)

/-- A table of exactly this name is there. -/
def hasTable (db : Database) (name : String) : Bool :=
  (name == tableName && db.table.isSome) || (name == "sqlite_sequence" && db.hasCounters) ||
    db.otherTables.contains name

/-- The byte at which the table's definition names the table. -/
def tableNameOffset : Nat := 13

/-- Puts an empty table in. -/
def withTable (db : Database) (indexes : List Index) (counted : Bool) : Database :=
  if counted then
    { db with table := some (.counting indexes), hasCounters := true }
  else { db with table := some (.uncounted indexes) }

/-- The database after a definition; `none` if there is nothing to do. -/
def define (db : Database) : Definition → Except Fault (Option Database)
  | .table =>
    if db.hasView then
      .error (.refused ("view " ++ tableName ++ " already exists") Definition.tableSql
        tableNameOffset)
    else if db.table.isSome then
      .error (.refused ("table " ++ tableName ++ " already exists") Definition.tableSql
        tableNameOffset)
    else .ok (some (db.withTable [] true))
  | .index i ifMissing =>
    if db.hasIndex i.name then if ifMissing then .ok none else .error (.indexExists i.name)
    else
      match db.table with
      | none => .error (.failure 1 (some ("no such table: main." ++ tableName)))
      | some t => .ok (some { db with table := some (t.withIndexes (t.indexes ++ [i])) })

/-- The database after the text of a definition; `none` if there is nothing to do. -/
def execute (db : Database) (sql : String) : Except Fault (Option Database) :=
  match Definition.all.find? (·.sql == sql) with
  | some d => db.define d
  | none => .error (.failure 1 (some "unknown statement"))

/-- Removes the table, its indexes and its counter. -/
def dropTable (db : Database) : Except Fault Database :=
  match db.table with
  | none => .error .noTable
  | some _ => .ok { db with table := none }

/-- Removes an index. -/
def dropIndex (db : Database) (name : String) : Except Fault Database :=
  if !db.hasIndex name then .error (.noIndex name)
  else
    .ok {
      db with
      table := db.table.map fun t => t.withIndexes (t.indexes.filter (!sameName ·.name name))
      otherIndexes := db.otherIndexes.filter (!sameName · name) }

/-- Asks the table. -/
def query {α : Type} (db : Database) (f : Table → Except Fault α) : Except Fault α :=
  match db.table with
  | none => .error .noTable
  | some t => f t

/-- Changes the table; a failure changes nothing. -/
def update {α : Type} (db : Database) (f : Table → Except Fault (α × Table)) :
    Except Fault α × Database :=
  match db.query f with
  | .error e => (.error e, db)
  | .ok (a, t) => (.ok a, { db with table := some t })

end Database

end RevisionLog
