import RevisionLog.Settings.File

/-!
# How a command fails

* `Failure` — the ways in which a command fails once its arguments are understood.
* `Failure.report` — the failure as the command line shows it, with what caused it.
-/

namespace RevisionLog

/-- How a command fails. -/
inductive Failure
  | settings (e : SettingsError)
  /-- The store at a path cannot be opened. -/
  | opening (path : String) (e : LogError)
  /-- The watermark of a compaction cannot be recorded. -/
  | recording (e : LogError)
  /-- The log fails. -/
  | log (e : LogError)
  | noRecord (id : Int)
deriving DecidableEq, Repr

namespace Failure

/-- What has failed. -/
def message : Failure → String
  | settings e => e.message
  | opening path _ => "failed to open store at " ++ Text.quote path
  | recording _ => "failed to record compaction watermark"
  | log e => e.message
  | noRecord id => "no record at revision " ++ toString id

/-- What caused it, nearest first. -/
def causes : Failure → List String
  | settings _ | noRecord _ => []
  | opening _ e | recording e => e.message :: e.chain
  | log e => e.chain

/-- Text whose further lines are indented by `depth`. -/
def indent (depth : Nat) (s : String) : String :=
  String.intercalate ("\n" ++ String.ofList (List.replicate depth ' ')) (s.splitOn "\n")

/-- The number of a cause, in a column of five places. -/
def label (n : Nat) : String :=
  let ds := Nat.toDigits 10 n
  String.ofList (List.replicate (5 - ds.length) ' ' ++ ds) ++ ": "

/-- The causes, each on a line; more than one are numbered. -/
def listed : List String → String
  | [] => ""
  | [cause] => "\n\nCaused by:\n    " ++ indent 4 cause
  | causes =>
    "\n\nCaused by:" ++
      String.join (causes.zipIdx.map fun (cause, n) => "\n" ++ label n ++ indent 7 cause)

/-- The failure as the command line shows it. -/
def report (f : Failure) : String := "Error: " ++ f.message ++ listed f.causes ++ "\n"

end Failure

end RevisionLog
