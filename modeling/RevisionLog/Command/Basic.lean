import RevisionLog.Command.Compaction
import RevisionLog.Json.Record
import RevisionLog.Workspace.Opening

/-!
# Commands

* `Command` — what the program can be asked to do with a store.
* `Command.perform` — does it, and answers what is to be printed.
* `Invocation` — a command with where the settings and the database are; `Invocation.run` runs it
  in a workspace.
-/

namespace RevisionLog

/-- What can be asked of a store from the command line. -/
inductive Command
  /-- Nothing but to install the schema. -/
  | init
  | status
  | get (id : Int)
  /-- The latest record of each name, as of a revision if one is given. -/
  | list (pattern : String) (revision : Option Int) (limit : Int) (withDeleted : Bool)
  | after (pattern : String) (revision limit : Int)
  | compact (revision : Int)
deriving DecidableEq, Repr

/-- A record as it is printed: bytes are shown as text. -/
def Record.view (r : Record) : Json :=
  .object [("id", .int r.id), ("name", .string r.name), ("created", .bool r.created),
    ("deleted", .bool r.deleted), ("create_revision", .int r.createRevision),
    ("prev_revision", .int r.prevRevision), ("lease", .int r.lease),
    ("value", .string (Text.decodeLossy r.value)),
    ("old_value", .string (Text.decodeLossy r.oldValue))]

namespace Command

/-- A value as it is printed. -/
def printed (v : Json) : String := v.pretty ++ "\n"

/-- Rows as they are printed. -/
def printedRows (rows : List Row) : String := printed (.array (rows.map (·.record.view)))

/-- The two revisions of a store. -/
def status? (s : Store) : Except LogError (Int × Int) := do
  let current ← s.currentRevision
  let watermark ← s.compactRevision
  return (current, watermark)

/-- Performs a command on a store, and answers what it prints. -/
def perform (c : Command) (s : Store) : Except Failure String × Store :=
  match c with
  | init => (.ok "", s)
  | status =>
    ((status? s).mapError .log |>.map fun (current, watermark) =>
      printed (.object
        [("compact_revision", .int watermark), ("current_revision", .int current)]), s)
  | get id =>
    match s.get id with
    | .error e => (.error (.log e), s)
    | .ok none => (.error (.noRecord id), s)
    | .ok (some r) => (.ok (printed r.view), s)
  | list pattern revision limit withDeleted =>
    let rows :=
      match revision with
      | some revision => s.list pattern "" limit revision withDeleted
      | none => s.listCurrent pattern "" limit withDeleted
    (rows.mapError .log |>.map printedRows, s)
  | after pattern revision limit =>
    ((s.after pattern revision limit).mapError .log |>.map printedRows, s)
  | compact revision =>
    let (r, s) := s.compactTo revision
    (r.map fun () => "", s)

end Command

/-- What a run of the program leaves behind. -/
structure Outcome where
  code : Nat := 0
  output : String := ""
  errors : String := ""
deriving DecidableEq, Repr

/-- The outcome of a command. -/
def Outcome.ofResult : Except Failure String → Outcome
  | .ok output => { output }
  | .error f => { code := 1, errors := f.report }

/-- A command, and where it finds its settings and its database. -/
structure Invocation where
  /-- The file of the settings. -/
  config : String := "sqlkv.toml"
  /-- The database, in place of the one that the settings name. -/
  database : Option String := none
  command : Command
deriving DecidableEq, Repr

namespace Invocation

/-- Opens the store at a path and performs the command on it. -/
def runAt (i : Invocation) (w : Workspace) (path : String) (migration : Nat) :
    Except Failure String × Workspace :=
  let opened := w.openStore path migration
  match opened.result with
  | .error e => (.error (.opening path e), opened.workspace)
  | .ok s =>
    let (r, s) := i.command.perform s
    (r, opened.workspace.keep path s)

/-- Runs the command in a workspace, under variables of the environment. -/
def run (i : Invocation) (w : Workspace) (environment : List (String × String)) :
    Outcome × Workspace :=
  match w.settings i.config environment with
  | .error e => (.ofResult (.error (.settings e)), w)
  | .ok settings =>
    let (r, w) := i.runAt w (i.database.getD settings.path) settings.schemaMigration
    (.ofResult r, w)

end Invocation

end RevisionLog
