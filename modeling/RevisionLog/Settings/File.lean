import RevisionLog.Ini.Document
import RevisionLog.Json.Settings
import RevisionLog.Json5.Document
import RevisionLog.Ron.Document
import RevisionLog.Settings.Environment
import RevisionLog.Toml.Document
import RevisionLog.Workspace
import RevisionLog.Yaml.Document

/-!
# Settings in files

The name of a file tells the format it is written in. A file that is not there gives nothing, and
so does one in no known format.

* `Format` — the formats and the names they go by.
* `Workspace.fileEntries` — what the file at a path gives.
* `Workspace.settings` — the settings that a file and the environment give together.
-/

namespace RevisionLog

/-- The formats of files. -/
inductive Format
  | toml
  | json
  | yaml
  | ini
  | json5
  | ron
deriving DecidableEq, Repr

namespace Format

/-- How names of files end, and the format that tells. -/
def extensions : List (String × Format) :=
  [("toml", toml), ("json", json), ("yaml", yaml), ("yml", yaml), ("ini", ini),
    ("json5", json5), ("ron", ron)]

/-- The format of files whose names end so. -/
def ofExtension? (s : String) : Option Format := extensions.lookup s

/-- What a text in the format gives; `none` is text that is not in the format. -/
def entries? : Format → String → Option (List (String × Setting))
  | toml => Toml.entries?
  | json => Json.entries?
  | yaml => Yaml.entries?
  | ini => Ini.entries?
  | json5 => Json5.entries?
  | ron => Ron.entries?

end Format

/-- What follows the last dot of a name, unless the dot comes first. -/
def Path.extension (name : String) : String :=
  let ending := (name.toList.reverse.takeWhile (· != '.')).reverse
  if ending.length + 1 < name.length then String.ofList ending else ""

/-- How reading settings fails. -/
inductive SettingsError
  /-- A file is not in its format. -/
  | unreadable
  /-- A value is not of its kind. -/
  | unfit
deriving DecidableEq, Repr

/-- What the error says. -/
def SettingsError.message : SettingsError → String
  | unreadable => "failed to read config file"
  | unfit => "failed to deserialise SqliteConfig"

namespace Workspace

/-- What stands at the end of a way all of whose stations are directories. -/
def follow (w : Workspace) (here : Path) : List String → Option Node
  | [] => w.find? here
  | name :: names =>
    match w.find? here with
    | some .directory => w.follow (here.step name) names
    | _ => none

/-- The text of the file at the end of a way. -/
def textAt? (w : Workspace) (names : List String) : Option String :=
  match w.follow [] names with
  | some (.file text) => some text
  | _ => none

/-- The path can only mean a directory. -/
def meansDirectory (path : String) : Bool :=
  match (Path.split path).getLast? with
  | some "" | some "." | none => true
  | _ => false

/-- The format and the text of the file that a path means: the file at the path itself, or else the
first that is there once the name of a format is put after it. -/
def settingsFile? (w : Workspace) (path : String) : Option (Format × String) := do
  let names := Path.parts path
  let name ← names.getLast?.filter (· != "..")
  match if meansDirectory path then none else w.textAt? names with
  | some text => return (← Format.ofExtension? (Path.extension name), text)
  | none =>
    Format.extensions.findSome? fun (ending, f) =>
      (w.textAt? (names.dropLast ++ [name ++ "." ++ ending])).map fun text => (f, text)

/-- The text without a byte order mark. -/
def unmarked (text : String) : String :=
  match text.toList with
  | '\ufeff' :: cs => String.ofList cs
  | _ => text

/-- What the file at a path gives. -/
def fileEntries (w : Workspace) (path : String) :
    Except SettingsError (List (String × Setting)) :=
  match w.settingsFile? path with
  | none => .ok []
  | some (f, text) =>
    match f.entries? (unmarked text) with
    | some es => .ok (es.map fun (key, value) => Settings.entry key value)
    | none => .error .unreadable

/-- The settings that a file gives, with those of the environment over them. -/
def settings (w : Workspace) (path : String) (environment : List (String × String)) :
    Except SettingsError Settings := do
  let entries := (← w.fileEntries path) ++ entriesOfVariables environment
  match Settings.ofEntries? entries with
  | some s => return s
  | none => throw .unfit

end Workspace

end RevisionLog
