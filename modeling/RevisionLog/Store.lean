import RevisionLog.Engine.DatabaseFile

/-!
# Stores

A `Store` is a log in a database: a connection and the dialect spoken on it. Every operation
answers, or fails with an error of the log, and leaves the store as it is afterwards.

* `Store.open` — a store on a database, with the schema installed; `Store.inMemory` on a new one.
* `Store.currentRevision`, `Store.compactRevision`, `Store.get`, `Store.listCurrent`,
  `Store.list`, `Store.countCurrent`, `Store.count`, `Store.after` — reads.
* `Store.insert`, `Store.setCompactRevision`, `Store.delete`, `Store.compact` — writes.

`pattern` arguments are LIKE patterns, and a limit of zero or less is none.
-/

namespace RevisionLog

/-- A log in a database. -/
structure Store where
  dialect : Dialect Fault
  /-- The database, or why it cannot be reached. -/
  connection : Except Fault Database
  /-- Why nothing can be written, if it is so. -/
  blocked : Option Fault := none
  /-- The id of the row that was last appended on this connection, or 0. -/
  lastId : Int := 0

namespace Store

variable {α : Type}

/-- Uses the connection. -/
def call (s : Store) (f : Database → Except Fault α × Database) : Except LogError α × Store :=
  match s.connection with
  | .error e => (.error (s.dialect.logError e), s)
  | .ok db =>
    let (r, db) := f db
    (r.mapError s.dialect.logError, { s with connection := .ok db })

/-- Lets something be written, if anything can be. -/
def guarded (s : Store) (r : Except Fault α) : Except Fault α :=
  match s.blocked with
  | none => r
  | some e => .error e

/-- Asks the table. -/
def query (s : Store) (f : Table → Except Fault α) : Except LogError α :=
  (s.call fun db => (db.query f, db)).1

/-- Changes the table. -/
def update (s : Store) (f : Table → Except Fault (α × Table)) : Except LogError α × Store :=
  s.call (·.update fun t => s.guarded (f t))

/-- Changes the database, unless there is nothing to do; a failure changes nothing. -/
def alter (s : Store) (f : Database → Except Fault (Option Database)) :
    Except LogError Unit × Store :=
  s.call fun db =>
    match f db with
    | .ok none => (.ok (), db)
    | .ok (some changed) =>
      match s.guarded (.ok changed) with
      | .ok db => (.ok (), db)
      | .error e => (.error e, db)
    | .error e => (.error e, db)

/-! ## Installation -/

/-- What an installation needs of a store. -/
def backend : SchemaBackend Store where
  tableExists schema s := s.call fun db => (.ok (db.hasTable schema.tableName), db)
  execute sql s := s.alter fun db => db.execute sql

/-- Installs the schema and replays the migrations below `migration`. Repeating it does no harm. -/
def install (s : Store) (migration : Nat) : Except LogError Installed × List Event × Store :=
  RevisionLog.install backend .sqlite migration s

/-- A store on a connection, with the schema installed. -/
def «open» (dialect : Dialect Fault) (connection : Connection) (migration : Nat) :
    Except LogError Installed × List Event × Store :=
  install { dialect, connection := .ok connection.database, blocked := connection.blocked }
    migration

/-- A store on a new database, which is kept nowhere. -/
def inMemory : Store := («open» .sqlite ⟨{}, none⟩ 0).2.2

/-! ## Reads -/

/-- The highest id in the log, or 0. -/
def currentRevision (s : Store) : Except LogError Int := s.query fun t => .ok t.currentRevision

/-- The compaction watermark, or 0. -/
def compactRevision (s : Store) : Except LogError Int := s.query (·.compactRevision)

/-- The record with an id. -/
def get (s : Store) (id : Int) : Except LogError (Option Record) := s.query (·.get id)

/-- The latest record of each name that matches `pattern` and comes after `cursor`. -/
def listCurrent (s : Store) (pattern cursor : String) (limit : Int) (withDeleted : Bool) :
    Except LogError (List Row) :=
  s.query (·.list { pattern, floor := some (.text cursor) } limit withDeleted)

/-- As `listCurrent`, but as of a revision; with the empty cursor names are not bounded. -/
def list (s : Store) (pattern cursor : String) (limit revision : Int) (withDeleted : Bool) :
    Except LogError (List Row) :=
  let floor := if cursor == "" then none else some (Cell.text cursor)
  s.query (·.list { pattern, floor, ceiling := some revision } limit withDeleted)

/-- The current revision and the number of rows of `listCurrent`. -/
def countCurrent (s : Store) (pattern cursor : String) : Except LogError (Int × Nat) :=
  s.query (·.count { pattern, floor := some (.text cursor) })

/-- The current revision and the number of rows of `list`. -/
def count (s : Store) (pattern cursor : String) (revision : Int) : Except LogError (Int × Nat) :=
  s.query (·.count { pattern, floor := some (.text cursor), ceiling := some revision })

/-- Every record above a revision that matches `pattern`, oldest first. -/
def after (s : Store) (pattern : String) (revision limit : Int) : Except LogError (List Row) :=
  s.query (·.after pattern revision limit)

/-! ## Writes -/

/-- Changes the table by a statement that the cells of a row are bound to, which comes first. -/
def enter (s : Store) (row : StoredRow) (f : Table → Except Fault (α × Table)) :
    Except LogError α × Store :=
  s.call (·.update fun t => do
    row.bound
    s.guarded (f t))

/-- Puts a row in under a new id. The connection remembers the id. -/
def append (s : Store) (row : Int → StoredRow) : Except LogError Int × Store :=
  match s.enter (row 0) (·.append row) with
  | (.ok id, s) => (.ok id, { s with lastId := id })
  | (.error e, s) => (.error e, s)

/-- Appends a record, and answers its id: the insertion itself does, or the connection is asked for
the id it remembers. -/
def insert (s : Store) (draft : Draft) : Except LogError Int × Store :=
  match s.append draft.row with
  | (.ok id, s) => (.ok (if s.dialect.insertReturning then id else s.lastId), s)
  | (.error e, s) => (.error e, s)

/-- Appends a watermark. -/
def setCompactRevision (s : Store) (revision : Int) : Except LogError Unit × Store :=
  match s.append (.watermark revision) with
  | (r, s) => (r.map fun _ => (), s)

/-- Removes one record. -/
def delete (s : Store) (id : Int) : Except LogError Unit × Store :=
  s.update fun t => .ok ((), t.delete id)

/-- Removes what no snapshot from the watermark on can see, up to `revision`. Without a watermark
there is nothing to write. -/
def compact (s : Store) (revision : Int) : Except LogError Table.Sweep × Store :=
  s.call (·.update fun t => do
    let swept ← t.sweep revision
    if 0 < swept.1.target then s.guarded (.ok swept) else return swept)

/-- What a compaction reports. -/
def compactionEvents (revision : Int) : Except LogError Table.Sweep → List Event
  | .ok sweep => [.compacted revision sweep.target sweep.removed]
  | .error _ => []

/-! ## The database behind the log -/

/-- A table of exactly this name is there. -/
def hasTable (s : Store) (name : String) : Except LogError Bool :=
  (s.call fun db => (.ok (db.hasTable name), db)).1

/-- Puts a row into the table past the log. -/
def write (s : Store) (id : Cell) (row : StoredRow) : Except LogError Unit × Store :=
  s.enter row fun t => (t.write id row).map fun t => ((), t)

/-- Removes the table. -/
def dropTable (s : Store) : Except LogError Unit × Store := s.alter fun db => db.dropTable.map some

/-- The names of the table's indexes, sorted; `none` when the connection is closed. -/
def indexNames (s : Store) : Option (List String) :=
  s.connection.toOption.map fun db => (db.indexes.map (·.name)).mergeSort fun a b => a ≤ b

/-- Closes the connection. -/
def close (s : Store) : Store := { s with connection := .error .closed }

end Store

end RevisionLog
