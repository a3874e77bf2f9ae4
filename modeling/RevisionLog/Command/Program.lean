import RevisionLog.Command.Arguments

/-!
# The program

`Program.run` is a whole run: arguments, a workspace and variables of the environment go in, what is
printed and the changed workspace come out.
-/

namespace RevisionLog.Program

/-- How the program names itself. -/
def name : String := "sqlkv"

/-- The name and the number of the release. -/
def version : String := "sqlkv-cli 0.1.0"

/-- How the program is called. -/
def usage : String :=
  "Usage: " ++ name ++ " [-c FILE] [--db FILE] COMMAND\n\n" ++
  "  init                      Create or migrate the schema\n" ++
  "  status                    Print the current and compaction revisions\n" ++
  "  get ID                    Print one record by revision\n" ++
  "  list PATTERN              Print the latest record of each name like a pattern\n" ++
  "       [--revision N] [--limit N] [--include-deleted]\n" ++
  "  after PATTERN REVISION    Print every record above a revision, oldest first\n" ++
  "       [--limit N]\n" ++
  "  compact REVISION          Advance the watermark and sweep history below it\n"

/-- What comes of a wish for help or for the version. -/
def notify : Notice → Outcome
  | .help => { output := usage }
  | .version => { output := version ++ "\n" }

/-- What comes of arguments that are not understood. -/
def refuse (e : UsageError) : Outcome :=
  { code := 2, errors := "error: " ++ e.message ++ "\n\n" ++ usage }

/-- A whole run. -/
def run (arguments : List String) (w : Workspace) (environment : List (String × String)) :
    Outcome × Workspace :=
  match Arguments.parse arguments with
  | .error e => (refuse e, w)
  | .ok (.inl notice) => (notify notice, w)
  | .ok (.inr invocation) => invocation.run w environment

end RevisionLog.Program
