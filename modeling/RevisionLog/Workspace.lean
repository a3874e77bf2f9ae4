import RevisionLog.Engine.DatabaseFile

/-!
# Workspaces

A `Workspace` is the directory that a program runs in: what stands at each path. A database is one
of the things that can stand there.

* `Path.parse` — the names on the way to a file.
* `Workspace.makeDirs` — makes the directories on a way.
* `Workspace.tree` — all that stands in the workspace.
-/

namespace RevisionLog

/-- The names on the way from the workspace to a file; a way from the root begins with `/`. -/
abbrev Path := List String

namespace Path

/-- Splits a string at slashes. -/
def split (s : String) : List String := (s.toList.splitOn '/').map String.ofList

/-- The names that a path is made of. -/
def parts (s : String) : List String :=
  (if s.startsWith "/" then ["/"] else []) ++ (split s).filter fun n => n != "" && n != "."

/-- One step on the way. -/
def step (p : Path) (name : String) : Path :=
  if name == ".." && !p.isEmpty && p.getLast? != some ".." && p != ["/"] then p.dropLast
  else if name == ".." && p == ["/"] then p
  else p ++ [name]

/-- The way that a path means. -/
def parse (s : String) : Path := (parts s).foldl step []

/-- The path as it is written. -/
def text (p : Path) : String := String.intercalate "/" p

/-- How many bytes a name can have. -/
def maxName : Nat := 255

/-- How many bytes a way can have. -/
def maxText : Nat := 4095

end Path

/-- What can stand at a path. -/
inductive Node
  | directory
  | file (text : String)
  | database (file : DatabaseFile)

/-- How making a directory fails. -/
inductive PathError
  /-- Something else stands there. -/
  | exists
  /-- Something else stands on the way. -/
  | notDirectory
  /-- A name, or the whole way, is too long. -/
  | nameTooLong
  /-- A name has a zero byte in it. -/
  | zeroByte
deriving DecidableEq, Repr

/-- What the error says. -/
def PathError.message : PathError → String
  | «exists» => "File exists (os error 17)"
  | notDirectory => "Not a directory (os error 20)"
  | nameTooLong => "File name too long (os error 36)"
  | zeroByte => "file name contained an unexpected NUL byte"

/-- The directory a program runs in. -/
structure Workspace where
  nodes : List (Path × Node) := []

namespace Workspace

/-- The directories that are always there: the workspace itself, the root, and the place for what is
not kept. -/
def lasting : List Path := [[], ["/"], ["/", "tmp"]]

/-- What stands at a path. What lies above the workspace is a directory. -/
def find? (w : Workspace) (p : Path) : Option Node :=
  if lasting.contains p || p.getLast? == some ".." then some .directory
  else w.nodes.lookup p

/-- Puts something at a path. -/
def put (w : Workspace) (p : Path) (n : Node) : Workspace :=
  ⟨w.nodes.filter (·.1 != p) ++ [(p, n)]⟩

/-- Makes the directories on a way, from a place on it. -/
def makeDirsFrom (w : Workspace) (here : Path) : List String → Except PathError Unit × Workspace
  | [] => (.ok (), w)
  | name :: names =>
    let p := here.step name
    if Path.maxName < name.utf8ByteSize then (.error .nameTooLong, w)
    else
      match w.find? p with
      | some .directory => w.makeDirsFrom p names
      | some _ => (.error (if names.isEmpty then .exists else .notDirectory), w)
      | none => (w.put p .directory).makeDirsFrom p names

/-- Makes the directories on a way. -/
def makeDirs (w : Workspace) (parts : List String) : Except PathError Unit × Workspace :=
  if parts.any (·.toList.contains '\x00') then (.error .zeroByte, w)
  else if Path.maxText < (Path.text parts).utf8ByteSize then (.error .nameTooLong, w)
  else w.makeDirsFrom [] parts

/-- Puts a file or a directory at a path, with the directories above it. -/
def withNode (w : Workspace) (path : String) (n : Node) : Workspace :=
  let parts := Path.parts path
  ((w.makeDirs parts.dropLast).2).put (Path.parse path) n

/-- The path is that of a log, or of what goes with one. -/
def isLog (p : Path) : Bool := p.text.endsWith "-wal" || p.text.endsWith "-shm"

/-- The paths of all that stands in the workspace, sorted; directories end in a slash. Logs are left
out. -/
def tree (w : Workspace) : List String :=
  let shown := w.nodes.filter fun (p, n) =>
    p.head? != some "/" && p.head? != some ".." &&
      match n with
      | .directory => true
      | _ => !isLog p
  (shown.map fun (p, n) =>
      match n with
      | .directory => p.text ++ "/"
      | _ => p.text).mergeSort fun a b => a ≤ b

end Workspace

end RevisionLog
