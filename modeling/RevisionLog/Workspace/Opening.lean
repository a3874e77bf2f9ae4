import RevisionLog.Store
import RevisionLog.Workspace

/-!
# Opening stores in a workspace

* `Workspace.connect` — a connection to the database at an address.
* `Workspace.openStore` — a store on the database that a text names.
* `Workspace.keep` — puts the database of a store where it lies.
-/

namespace RevisionLog

namespace Path

/-- How many bytes the names on a way can have for a database at its end, with a slash each. -/
def maxDatabase : Nat := 484

/-- What is put after the name of a file to name its journal. -/
def journalEnding : String := "-journal"

/-- A file at the path can be looked for. -/
def isReachable (p : Path) : Bool :=
  p != ["/"] && p.all (·.utf8ByteSize ≤ maxName) &&
    (p.map fun n => n.utf8ByteSize + 1).foldl (· + ·) 0 ≤ maxDatabase

/-- A journal can stand beside the file. -/
def hasJournalRoom (p : Path) : Bool :=
  (p.getLast?.getD "").utf8ByteSize + journalEnding.utf8ByteSize ≤ maxName

end Path

/-- The path of the file at an address, unless the database is in memory. -/
def Address.file? (a : Address) : Option Path :=
  if a.isVolatile then none else some (Path.parse a.name)

namespace Workspace

/-- What stands at the path of a database. A directory can be opened to be read, but not read. -/
def databaseFile (w : Workspace) (mode : Mode) (p : Path) (cannotOpen : Fault) :
    Except Fault DatabaseFile × Workspace :=
  if !p.isReachable then (.error cannotOpen, w)
  else
    match w.find? p with
    | some .directory => (.error (if mode == .readOnly then .unreadable else cannotOpen), w)
    | some (.file text) => (DatabaseFile.ofText text, w)
    | some (.database f) => (.ok f, w)
    | none =>
      match if mode == .create then w.find? p.dropLast else none with
      | some .directory => (.ok {}, w.put p (.file ""))
      | _ => (.error cannotOpen, w)

/-- A connection to the database at an address; `text` is how the address is written, and `common`
the database in memory that connections of the program share. -/
def connect (w : Workspace) (text : String) (common : Database) (a : Address) :
    Except Fault Connection × Workspace :=
  match a.file? with
  | none =>
    let blocked := if a.mode == .readOnly || a.isFixed then some Fault.readOnly else none
    (.ok ⟨if a.isCommon then common else {}, blocked⟩, w)
  | some p =>
    let (file, w) := w.databaseFile a.mode p (.cannotOpen text)
    match file >>= (·.connect a p.hasJournalRoom) with
    | .error e => (.error e, w)
    | .ok (connection, f) =>
      (.ok connection, if connection.blocked.isNone then w.put p (.database f) else w)

/-- Puts the database of a store where it lies. -/
def keep (w : Workspace) (text : String) (s : Store) : Workspace :=
  match Address.parse text, s.connection, s.blocked with
  | .ok a, .ok db, none =>
    match a.file? with
    | none => w
    | some p =>
      match w.find? p with
      | some (.database f) => w.put p (.database { f with database := db })
      | _ => w.put p (.database { database := db, hasLog := true })
  | _, _, _ => w

/-- What opening a store gives. -/
structure Opened where
  result : Except LogError Store
  events : List Event := []
  workspace : Workspace

/-- The position of the first zero byte. -/
def zeroByte? (text : String) : Option Nat := (Text.encode text).findIdx? (· == 0)

/-- The address that a text gives, which can have no zero byte. -/
def addressOf (text : String) : Except Fault Address :=
  match zeroByte? text with
  | some position => .error (.zeroByte position)
  | none => Address.parse text

/-- Opens a store on the database that a text names: makes the directories above it, and the
database if there is none, and installs the schema. -/
def openStore (w : Workspace) (text : String) (migration : Nat) (common : Database := {}) :
    Opened :=
  match w.makeDirs (Path.parts text).dropLast with
  | (.error e, w) => { result := .error (.io ⟨e.message, []⟩), workspace := w }
  | (.ok (), w) =>
    let (connection, w) : Except Fault Connection × Workspace :=
      match addressOf text with
      | .error e => (.error e, w)
      | .ok a => w.connect text common a
    match connection with
    | .error e => { result := .error (Dialect.sqlite.logError e), workspace := w }
    | .ok connection =>
      let (r, events, s) := Store.open .sqlite connection migration
      { result := r.map fun _ => s, events, workspace := w.keep text s }

end Workspace

end RevisionLog
