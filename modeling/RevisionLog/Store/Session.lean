import RevisionLog.Store.Worded
import RevisionLog.Workspace.Opening

/-!
# Sessions

A `Session` is a store with requests put to it one after another. Besides the operations of the
store there are the writes that read first: a new version of a record, or of a key.

* `Request` — what can be asked for.
* `Reply` — the answers to it, and the events on the way if they are asked for too.
* `Session.perform` — one request.
-/

namespace RevisionLog

/-- How a record follows another. -/
inductive Successor
  | update (value : Bytes)
  | recreate (value : Bytes)
  | tombstone
deriving DecidableEq, Repr

/-- The draft that follows a record. -/
def Successor.draft (r : Record) : Successor → Draft
  | update value => .update r value
  | recreate value => .recreate r value
  | tombstone => .tombstone r

/-- A draft, on a lease if one is given. -/
def Draft.leased (d : Draft) (lease : Option Int) : Draft :=
  match lease with
  | none => d
  | some lease => d.withLease lease

/-- What can be asked of a session. -/
inductive Request
  | insert (draft : Draft)
  /-- Appends what follows the record with an id. -/
  | succeed (id : Int) (next : Successor) (lease : Option Int)
  /-- Appends the next version of a key: a creation, an update or a recreation. -/
  | put (name : String) (value : Bytes) (lease : Option Int)
  /-- Appends the tombstone of a key. -/
  | remove (name : String) (lease : Option Int)
  /-- Two insertions at a time, the first of them first. -/
  | race (a b : Draft)
  | get (id : Int)
  | listCurrent (pattern cursor : String) (limit : Int) (withDeleted : Bool)
  | list (pattern cursor : String) (limit revision : Int) (withDeleted : Bool)
  | countCurrent (pattern cursor : String)
  | count (pattern cursor : String) (revision : Int)
  | after (pattern : String) (revision limit : Int)
  | currentRevision
  | compactRevision
  | setCompactRevision (revision : Int)
  | delete (id : Int)
  | compact (revision : Int)
  | install (migration : Nat)
  | hasTable (name : String)
  /-- Puts a row into the table past the log. -/
  | write (id : Cell) (row : StoredRow)
  | dropTable
  | dropIndex (name : String)
  | indexNames
  | describe
  | close
  /-- Opens the file of the store again. -/
  | reopen (migration : Nat)

/-- What a request is answered with. -/
inductive Answer
  | done
  | revision (i : Int)
  /-- There is nothing to write the next version of. -/
  | absent
  | record (r : Option Record)
  | rows (rs : List Row)
  | counted (revision count : Int)
  | removed (count : Nat)
  | installed (i : Installed)
  | flag (b : Bool)
  | names (ns : List String)
  /-- The dialect, and its insertion. -/
  | dialect (text insertSql : String)
deriving DecidableEq, Repr

/-- The reply to a request. -/
inductive Reply
  | one (answer : Except LogError Answer)
  /-- An answer with the events on the way. -/
  | logged (answer : Except LogError Answer) (events : List Event)
  | two (a b : Except LogError Answer)
  /-- The connection is closed, told outside the log. -/
  | closed

/-- A store, and where it lies if it has a file. -/
structure Session where
  store : Store
  workspace : Workspace := {}
  path : Option String := none

namespace Session

/-- The session after a change of the store. -/
def after {α : Type} (s : Session) (r : Except LogError α × Store) (f : α → Answer) :
    Reply × Session :=
  (.one (r.1.map f), { s with store := r.2 })

/-- Answers from the store as it is. -/
def told {α : Type} (s : Session) (r : Except LogError α) (f : α → Answer) : Reply × Session :=
  (.one (r.map f), s)

/-- What the session's store can do. -/
def operations (s : Session) : Operations := s.store.operations

/-- Inserts a draft. -/
def insert (s : Session) (draft : Draft) : Reply × Session :=
  s.after (s.operations.insert s.store draft) .revision

/-- The next version of a key that has this latest record, or none. -/
def nextVersion (name : String) (value : Bytes) : List Row → Draft
  | [] => .create name value
  | row :: _ => if row.record.deleted then .recreate row.record value else .update row.record value

/-- Opens the file of the session again. -/
def reopen (s : Session) (path : String) (migration : Nat) : Reply × Session :=
  let common := s.store.connection.toOption.getD {}
  let o := (s.workspace.keep path s.store).openStore path migration common
  match o.result with
  | .ok store => (.logged (.ok .done) o.events, { s with store, workspace := o.workspace })
  | .error e => (.logged (.error e) o.events, { s with workspace := o.workspace })

/-- Performs a request. -/
def perform (s : Session) : Request → Reply × Session
  | .insert draft => s.insert draft
  | .succeed id next lease =>
    match s.operations.get s.store id with
    | .error e => (.one (.error e), s)
    | .ok none => (.one (.ok .absent), s)
    | .ok (some r) => s.insert ((next.draft r).leased lease)
  | .put name value lease =>
    match s.operations.listCurrent s.store name "" 0 true with
    | .error e => (.one (.error e), s)
    | .ok rows => s.insert ((nextVersion name value rows).leased lease)
  | .remove name lease =>
    match s.operations.listCurrent s.store name "" 0 false with
    | .error e => (.one (.error e), s)
    | .ok [] => (.one (.ok .absent), s)
    | .ok (row :: _) => s.insert ((Draft.tombstone row.record).leased lease)
  | .race a b =>
    let (ra, store) := s.operations.insert s.store a
    let (rb, store) := s.operations.insert store b
    (.two (ra.map .revision) (rb.map .revision), { s with store })
  | .get id => s.told (s.operations.get s.store id) .record
  | .listCurrent pattern cursor limit withDeleted =>
    s.told (s.operations.listCurrent s.store pattern cursor limit withDeleted) .rows
  | .list pattern cursor limit revision withDeleted =>
    s.told (s.operations.list s.store pattern cursor limit revision withDeleted) .rows
  | .countCurrent pattern cursor =>
    s.told (s.operations.countCurrent s.store pattern cursor) fun (r, n) => .counted r n
  | .count pattern cursor revision =>
    s.told (s.operations.count s.store pattern cursor revision) fun (r, n) => .counted r n
  | .after pattern revision limit => s.told (s.operations.after s.store pattern revision limit) .rows
  | .currentRevision => s.told s.store.currentRevision .revision
  | .compactRevision => s.told s.store.compactRevision .revision
  | .setCompactRevision revision =>
    s.after (s.operations.setCompactRevision s.store revision) fun _ => .done
  | .delete id => s.after (s.operations.delete s.store id) fun _ => .done
  | .compact revision =>
    let (r, store) := s.operations.compact s.store revision
    (.logged (r.map fun sweep => .removed sweep.removed) (Store.compactionEvents revision r),
      { s with store })
  | .install migration =>
    let (r, events, store) := s.store.install migration
    (.logged (r.map .installed) events, { s with store })
  | .hasTable name => s.told (s.store.hasTable name) .flag
  | .write id row => s.after (s.store.write id row) fun _ => .done
  | .dropTable => s.after s.store.dropTable fun _ => .done
  | .dropIndex name => s.after (s.store.dropIndex name) fun _ => .done
  | .indexNames =>
    match s.store.indexNames with
    | some ns => (.one (.ok (.names ns)), s)
    | none => (.closed, s)
  | .describe => (.one (.ok (.dialect s.store.dialect.describe s.store.dialect.insertSql)), s)
  | .close => (.one (.ok (.flag true)), { s with store := s.store.close })
  | .reopen migration => s.reopen (s.path.getD "") migration

/-- Performs requests one after another. -/
def run (s : Session) : List Request → List Reply × Session
  | [] => ([], s)
  | q :: qs =>
    let (r, s) := s.perform q
    let (rs, s) := s.run qs
    (r :: rs, s)

/-- Where the session's database lies, and how it is shared; `none` in memory. -/
def file? (s : Session) : Option (Path × Sharing) := do
  let a ← (Address.parse (← s.path)).toOption
  return (← a.file?, a.sharing)

/-- The workspace as other programs find it: the database lies in its file, and is held open. -/
def shared (s : Session) : Workspace :=
  match s.path, s.file? with
  | some path, some (p, sharing) =>
    let w := s.workspace.keep path s.store
    match w.find? p with
    | some (.database f) => w.put p (.database (f.held sharing))
    | _ => w
  | _, _ => s.workspace

/-- The connection to a file that others have changed. -/
def reconnected (sharing : Sharing) (f : DatabaseFile) : Except Fault Database :=
  if sharing == .none && f.hasLog then .error .outOfReach else .ok f.database

/-- The session on a workspace that others have changed: the database is read from there again. -/
def refreshed (s : Session) (w : Workspace) : Session :=
  let s := { s with workspace := w }
  match s.file? with
  | none => s
  | some (p, sharing) =>
    match w.find? p, s.store.connection with
    | some (.database f), .ok _ =>
      { s with store := { s.store with connection := reconnected sharing f } }
    | _, _ => s

end Session

end RevisionLog
