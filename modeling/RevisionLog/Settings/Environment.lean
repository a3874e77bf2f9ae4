import RevisionLog.Settings.Key

/-!
# Settings from the environment

A variable whose name begins with `KINE_`, in either case, gives the setting that the rest of the
name names. `Setting.ofVariable` takes the value for what it looks like.
-/

namespace RevisionLog

/-- What the names of variables begin with, in lower case. -/
def variableLead : String := "kine_"

/-- The value of a variable: a flag, else an integer, else a number, else text. -/
def Setting.ofVariable (value : String) : Setting :=
  match lowered value with
  | "true" => .flag true
  | "false" => .flag false
  | _ =>
    match Digits.int64? value, Binary64.ofText? value with
    | some i, _ => .int i
    | none, some r => .real r
    | none, none => .text value

/-- The setting that a variable gives. -/
def entryOfVariable? (name value : String) : Option (String × Setting) :=
  if (lowered name).startsWith variableLead then
    some (Settings.entry ((lowered name).drop variableLead.length).toString (.ofVariable value))
  else none

/-- The settings that variables give. They are taken in the order of their names. -/
def entriesOfVariables (environment : List (String × String)) : List (String × Setting) :=
  (environment.mergeSort fun a b => a.1 ≤ b.1).filterMap fun (name, value) =>
    entryOfVariable? name value

end RevisionLog
