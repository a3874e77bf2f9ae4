import RevisionLog.Error
import RevisionLog.Text.Blank

/-!
# Schemas and how they are installed

A `Schema` is the text that makes the table and its indexes; the migrations hold what a database of
an older shape still lacks. `install` brings a backend to the current shape: it creates what is
absent, then replays the migrations below a number. The first statement that fails ends the run.

* `Schema.plan` — the statements that a run executes, in order.
* `runTasks` — executes them up to the first failure.
* `install` — the run with its events.
-/

namespace RevisionLog

/-- The definition of a table for one engine. -/
structure Schema where
  /-- The query, with the table's name as its parameter, that has a row iff the table is there. -/
  existsSql : String
  /-- The table's name in the engine's catalog. -/
  tableName : String
  /-- The table and its indexes, in order. -/
  statements : List String
  /-- Deltas in order; an empty one stands for a number that this engine does not need. -/
  migrations : List String
deriving DecidableEq, Repr

/-- What a run of `install` has done. -/
structure Installed where
  created : Bool
  migrationsApplied : Nat
deriving DecidableEq, Repr

/-- A statement to execute, and the label it is logged under. -/
structure Task where
  label : String
  statement : String
deriving DecidableEq, Repr

/-- Something that an operation reports while it runs. -/
inductive Event
  /-- A run of `install` begins. -/
  | configuring
  /-- The table could not be looked for; a run of `install` goes on as if it were absent. -/
  | checkFailed (table : String) (error : LogError)
  /-- A statement is about to be executed. -/
  | executing (task : Task)
  /-- A run of `install` has ended well. -/
  | upToDate
  /-- A sweep has removed `deleted` rows up to `target`. -/
  | compacted (requested target : Int) (deleted : Nat)
deriving DecidableEq, Repr

namespace Event

/-- The level of the event. -/
def level : Event → String
  | configuring | upToDate => "INFO"
  | checkFailed .. => "WARN"
  | executing _ => "TRACE"
  | compacted .. => "DEBUG"

/-- The text of the event. -/
def message : Event → String
  | configuring =>
    "Configuring database table schema and indexes, this may take a moment..."
  | checkFailed _ error =>
    "failed to check existence of database table, going to attempt create: " ++ error.message
  | executing task => task.label ++ ": " ++ Text.collapse task.statement
  | upToDate => "Database tables and indexes are up to date"
  | compacted .. => "compacted log"

end Event

/-- What an installation needs of an engine whose state is a `σ`. -/
structure SchemaBackend (σ : Type) where
  /-- Whether the table of a schema is there. -/
  tableExists : Schema → σ → Except LogError Bool × σ
  /-- Executes one statement. -/
  execute : String → σ → Except LogError Unit × σ

namespace Schema

/-- The statements that create what is absent. -/
def creation (schema : Schema) : List Task :=
  schema.statements.map fun s => ⟨"SETUP EXEC", s⟩

/-- The migrations below `count`, empty ones left out. -/
def pending (schema : Schema) (count : Nat) : List Task :=
  (schema.migrations.zipIdx.filter fun (s, i) => i < count && s != "").map fun (s, i) =>
    ⟨"SETUP EXEC MIGRATION " ++ toString i, s⟩

/-- What a run executes; `present` tells that the table is there. -/
def plan (schema : Schema) (present : Bool) (count : Nat) : List Task :=
  (if present then [] else schema.creation) ++ schema.pending count

end Schema

variable {σ : Type}

/-- Executes tasks up to the first that fails. -/
def runTasks (b : SchemaBackend σ) : List Task → σ → Except LogError Unit × List Event × σ
  | [], s => (.ok (), [], s)
  | t :: ts, s =>
    match b.execute t.statement s with
    | (.ok (), s) =>
      let (r, events, s) := runTasks b ts s
      (r, .executing t :: events, s)
    | (.error e, s) => (.error (.setup (Text.collapse t.statement) e), [.executing t], s)

/-- Whether the table is there; one that cannot be looked for counts as absent. -/
def findTable (b : SchemaBackend σ) (schema : Schema) (s : σ) : Bool × List Event × σ :=
  match b.tableExists schema s with
  | (.ok present, s) => (present, [], s)
  | (.error e, s) => (false, [.checkFailed schema.tableName e], s)

/-- Brings a backend to the shape of `schema` and replays the migrations below `count`. -/
def install (b : SchemaBackend σ) (schema : Schema) (count : Nat) (s : σ) :
    Except LogError Installed × List Event × σ :=
  let (present, checked, s) := findTable b schema s
  let (r, ran, s) := runTasks b (schema.plan present count) s
  match r with
  | .error e => (.error e, .configuring :: checked ++ ran, s)
  | .ok () =>
    (.ok ⟨!present, (schema.pending count).length⟩,
      .configuring :: checked ++ ran ++ [.upToDate], s)

end RevisionLog
