import RevisionLog.Command.Program
import RevisionLog.Engine.Image

/-!
# The command line

Brings what a run may need from the file system into a workspace, runs the program on it, and puts
back what the run has made.
-/

namespace RevisionLog.CommandLine

/-- What a text from a file stands for. -/
def nodeOfText (text : String) : Node :=
  match DatabaseFile.ofImage? text with
  | some f => .database f
  | none => .file text

/-- What stands at a place in the file system. What is there but cannot be read is a directory. -/
def load (p : Path) : IO (Option Node) := do
  try
    return some (nodeOfText (← IO.FS.readFile p.text))
  catch
    | .noFileOrDirectory .. => return none
    | _ => return some .directory

/-- The workspace with what stands on the way to a path, and at its end. -/
def bring (path : String) (w : Workspace) : IO Workspace := do
  let names := Path.parts path
  let mut w := w
  for k in List.range names.length do
    let p := (names.take (k + 1)).foldl Path.step []
    if let some node ← load p then w := w.put p node
  return w

/-- The variables that settings are looked for in. -/
def variableNames : List String :=
  ["path", "schema_migration"].flatMap fun s =>
    [variableLead ++ s, (variableLead ++ s).map Char.toUpper]

/-- The variables that are set. -/
def environment : IO (List (String × String)) := do
  let mut found := []
  for name in variableNames do
    if let some value ← IO.getEnv name then found := (name, value) :: found
  return found

/-- The files that a run reads its settings from. -/
def settingsPaths (config : String) : List String :=
  config :: Format.extensions.map fun (ending, _) => config ++ "." ++ ending

/-- The workspace that a command needs. -/
def workspaceFor (i : Invocation) (environment : List (String × String)) : IO Workspace := do
  let mut w : Workspace := {}
  for path in settingsPaths i.config do
    w ← bring path w
  match w.settings i.config environment with
  | .ok settings => bring (i.database.getD settings.path) w
  | .error _ => return w

/-- Puts what a run has made into the file system. -/
def store (w : Workspace) : IO Unit := do
  for (p, node) in w.nodes do
    match node with
    | .directory => IO.FS.createDirAll p.text
    | .database f => IO.FS.writeFile p.text f.image
    | .file _ => pure ()

end RevisionLog.CommandLine

open RevisionLog in
/-- Runs the program. -/
def main (arguments : List String) : IO UInt32 := do
  let environment ← CommandLine.environment
  let w ←
    match Arguments.parse arguments with
    | .ok (.inr invocation) => CommandLine.workspaceFor invocation environment
    | _ => pure {}
  let (outcome, w) := Program.run arguments w environment
  CommandLine.store w
  IO.print outcome.output
  IO.eprint outcome.errors
  return outcome.code.toUInt32
