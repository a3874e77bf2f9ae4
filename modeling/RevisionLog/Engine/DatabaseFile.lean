import RevisionLog.Engine.Address
import RevisionLog.Engine.Database
import RevisionLog.Engine.Header

/-!
# Files of databases

What a file holds and how it is shared, and what a connection makes of it: connections want a log
beside the file, and one that cannot have it sees less or nothing.

* `DatabaseFile` — a database in a file.
* `DatabaseFile.ofText` — the database that the text of a file holds.
* `DatabaseFile.connect` — a connection to a file.
-/

namespace RevisionLog

/-- How another program holds a file open. -/
inductive Hold
  | none
  /-- Through the log, beside others. -/
  | byLog
  /-- Through the log, for itself. -/
  | alone
deriving DecidableEq, Repr

/-- A database in a file. -/
structure DatabaseFile where
  database : Database := {}
  /-- Changes go to a log beside the file before they come into it. -/
  hasLog : Bool := false
  isWritable : Bool := true
  /-- There is no damage that the first change would come upon. -/
  isSound : Bool := true
  hold : Hold := .none

/-- What a connection has of a database. -/
structure Connection where
  database : Database
  /-- Why nothing can be written, if it is so. -/
  blocked : Option Fault := none

namespace DatabaseFile

/-- The database that the text of a file holds. -/
def ofText (text : String) : Except Fault DatabaseFile := do
  match ← Header.read text with
  | none => return {}
  | some h => return { hasLog := h.hasLog, isWritable := h.isWritable, isSound := h.isSound }

/-- What the file itself holds. While another program has it open, that is nothing yet. -/
def settled (f : DatabaseFile) : Database :=
  match f.hold with
  | .none => f.database
  | _ => {}

/-- The hold on the file does not let a connection in. -/
def excludes (f : DatabaseFile) (sharing : Sharing) : Bool :=
  match f.hold with
  | .none => false
  | .byLog => sharing == .byOneProgram
  | .alone => true

/-- Why nothing can be written over a connection, if it is so. `hasRoom` tells that a journal can
stand beside the file, which changes of a file without a log need. -/
def blocked (f : DatabaseFile) (mode : Mode) (hasRoom : Bool) : Option Fault :=
  if mode == .readOnly || !f.isWritable then some .readOnly
  else if !f.hasLog && !hasRoom then some .outOfReach
  else if !f.isSound then some .malformed
  else none

/-- A connection to the file, and the file with the connection open: it is given a log, unless the
connection cannot share one. -/
def connect (f : DatabaseFile) (a : Address) (hasRoom : Bool) :
    Except Fault (Connection × DatabaseFile) :=
  let blocked := f.blocked a.mode hasRoom
  if a.isFixed then .ok (⟨f.settled, some .readOnly⟩, f)
  else if a.sharing == .none then
    if f.hasLog then .error .outOfReach else .ok (⟨f.database, blocked⟩, f)
  else if f.excludes a.sharing then .error .locked
  else
    match if f.hasLog then none else blocked.filter (· != .malformed) with
    | some e => .error e
    | none => .ok (⟨f.database, blocked⟩, { f with hasLog := true })

/-- The file while a connection of another program is open. -/
def held (f : DatabaseFile) (sharing : Sharing) : DatabaseFile :=
  { f with
    hold := if !f.hasLog then .none else if sharing == .byOneProgram then .alone else .byLog }

end DatabaseFile

end RevisionLog
