import RevisionLog.Command.Basic

/-!
# Arguments

An argument is a switch (`--limit 5`, `--limit=5`, `-c file`, `-cfile`), a word, or `--`, after
which everything is a word. What comes first is looked at first, so a wish for help or for the
version is heard unless something before it is wrong.

* `Grammar` — the switches and words that are understood; `Grammar.scan` reads arguments.
* `Arguments.parse` — the arguments of the program.
-/

namespace RevisionLog

/-- How arguments are not understood. -/
inductive UsageError
  | unexpected (argument : String)
  | invalid (value name : String)
  | missing (name : String)
  | repeated (name : String)
  | noCommand
deriving DecidableEq, Repr

/-- What the error says. -/
def UsageError.message : UsageError → String
  | unexpected argument => "unexpected argument '" ++ argument ++ "'"
  | invalid value name => "invalid value '" ++ value ++ "' for " ++ name
  | missing name => "no value for " ++ name
  | repeated name => name ++ " is given more than once"
  | noCommand => "no command"

/-- A wish that stops the reading of arguments. -/
inductive Notice
  | help
  | version
deriving DecidableEq, Repr

/-- What a switch does to what has been read, an `α`. -/
inductive Effect (α : Type)
  | stop (notice : Notice)
  | flag (set : α → Except UsageError α)
  | valued (set : String → α → Except UsageError α)

/-- A switch, with its long name and its letter if it has one. -/
structure Switch (α : Type) where
  name : String
  letter : Option Char := none
  effect : Effect α

/-- The arguments that are understood. -/
structure Grammar (α : Type) where
  switches : List (Switch α)
  /-- What a word does; `none` if the first word ends the reading. -/
  place : Option (String → α → Except UsageError α)

/-- What comes of reading arguments. -/
inductive Scanned (α : Type)
  | notice (notice : Notice)
  /-- A word has ended the reading; these arguments follow it. -/
  | word (read : α) (word : String) (rest : List String)
  | all (read : α)

namespace Grammar

variable {α : Type}

/-- What comes of a switch without a value. -/
inductive Switched (α : Type)
  | notice (notice : Notice)
  | done (read : α)
  /-- The value is the next argument. -/
  | wanting (name : String) (set : String → α → Except UsageError α) (read : α)

/-- Splits a long switch at its first `=`. -/
def splitValue (cs : List Char) : String × Option String :=
  let name := String.ofList (cs.takeWhile (· != '='))
  match cs.dropWhile (· != '=') with
  | [] => (name, none)
  | _ :: value => (name, some (String.ofList value))

/-- Reads a long switch, without its dashes. -/
def long (g : Grammar α) (cs : List Char) (a : α) : Except UsageError (Switched α) :=
  let (name, value) := splitValue cs
  match g.switches.find? (·.name == name), value with
  | some ⟨_, _, .stop notice⟩, none => .ok (.notice notice)
  | some ⟨_, _, .flag set⟩, none => (set a).map .done
  | some ⟨_, _, .valued set⟩, none => .ok (.wanting name set a)
  | some ⟨_, _, .valued set⟩, some value => (set value a).map .done
  | _, _ => .error (.unexpected ("--" ++ String.ofList cs))

/-- A value behind the letter of its switch, which a `=` may come before. -/
def attached : List Char → String
  | '=' :: cs => String.ofList cs
  | cs => String.ofList cs

/-- Reads the letters of switches behind one dash. -/
def letters (g : Grammar α) : List Char → α → Except UsageError (Switched α)
  | [], a => .ok (.done a)
  | c :: cs, a =>
    match g.switches.find? (·.letter == some c) with
    | none => .error (.unexpected (String.ofList ['-', c]))
    | some switch =>
      match switch.effect with
      | .stop notice => .ok (.notice notice)
      | .flag set => (set a).bind (g.letters cs)
      | .valued set =>
        if cs.isEmpty then .ok (.wanting switch.name set a)
        else (set (attached cs) a).map .done

/-- The argument looks like a switch. -/
def isSwitch (argument : String) : Bool := argument.startsWith "-" && argument != "-"

/-- Reads words only. -/
def scanWords (g : Grammar α) : List String → α → Except UsageError (Scanned α)
  | [], a => .ok (.all a)
  | word :: rest, a =>
    match g.place with
    | none => .error (.unexpected word)
    | some place => (place word a).bind (g.scanWords rest)

/-- Reads arguments. -/
def scan (g : Grammar α) : List String → α → Except UsageError (Scanned α)
  | [], a => .ok (.all a)
  | argument :: rest, a =>
    if argument == "--" then g.scanWords rest a
    else if isSwitch argument then
      let cs := argument.toList.drop 1
      let switched := if cs.head? == some '-' then g.long (cs.drop 1) a else g.letters cs a
      match switched with
      | .error e => .error e
      | .ok (.notice notice) => .ok (.notice notice)
      | .ok (.done a) => g.scan rest a
      | .ok (.wanting name set a) =>
        match rest with
        | [] => .error (.missing name)
        | value :: rest =>
          if isSwitch value then .error (.missing name) else (set value a).bind (g.scan rest)
    else
      match g.place with
      | none => .ok (.word a argument rest)
      | some place => (place argument a).bind (g.scan rest)

end Grammar

namespace Arguments

/-- The switch that asks for help. -/
def helpSwitch {α : Type} : Switch α := ⟨"help", some 'h', .stop .help⟩

/-- A value that is given at most once. -/
def once {β : Type} (name : String) (kept : Option β) (b : β) : Except UsageError (Option β) :=
  if kept.isSome then .error (.repeated name) else .ok (some b)

/-- A path, which is not empty. -/
def readPath (name value : String) : Except UsageError String :=
  if value == "" then .error (.missing name) else .ok value

/-- An integer. -/
def readInt (name value : String) : Except UsageError Int :=
  match Digits.int64? value with
  | some i => .ok i
  | none => .error (.invalid value name)

/-! ## Before the command -/

/-- What is given before the command. -/
structure Globals where
  config : Option String := none
  database : Option String := none

/-- The arguments before the command, which is the first word. -/
def globals : Grammar Globals where
  switches :=
    [helpSwitch, ⟨"version", some 'V', .stop .version⟩,
      ⟨"config", some 'c', .valued fun value a => do
        return { a with config := ← once "config" a.config (← readPath "config" value) }⟩,
      ⟨"db", none, .valued fun value a => do
        return { a with database := ← once "db" a.database (← readPath "db" value) }⟩]
  place := none

/-! ## After the command -/

/-- What a word after a command stands for. -/
inductive WordKind
  | text
  | number
deriving DecidableEq, Repr

/-- A word after a command. -/
inductive Word
  | text (s : String)
  | number (i : Int)
deriving DecidableEq, Repr

/-- What is given after the command. -/
structure Given where
  words : List Word := []
  revision : Option Int := none
  limit : Option Int := none
  includeDeleted : Option Unit := none

/-- Reads a word as what it stands for. -/
def readWord (value : String) : WordKind → Except UsageError Word
  | .text => .ok (.text value)
  | .number => (readInt "a revision" value).map .number

/-- Takes the next of the words that a command has. -/
def placeWord (kinds : List WordKind) (value : String) (a : Given) : Except UsageError Given :=
  match kinds[a.words.length]? with
  | none => .error (.unexpected value)
  | some kind => (readWord value kind).map fun word => { a with words := a.words ++ [word] }

/-- The switch `--revision`. -/
def revisionSwitch : Switch Given where
  name := "revision"
  effect := .valued fun value a => do
    return { a with revision := ← once "revision" a.revision (← readInt "revision" value) }

/-- The switch `--limit`. -/
def limitSwitch : Switch Given where
  name := "limit"
  effect := .valued fun value a => do
    return { a with limit := ← once "limit" a.limit (← readInt "limit" value) }

/-- The switch `--include-deleted`. -/
def includeDeletedSwitch : Switch Given where
  name := "include-deleted"
  effect := .flag fun a => do
    return { a with includeDeleted := ← once "include-deleted" a.includeDeleted () }

/-- How a command is written. -/
structure Form where
  name : String
  /-- The words after it, all of which are needed. -/
  words : List WordKind := []
  switches : List (Switch Given) := []
  /-- The command that is meant once the words are there. -/
  build : Given → Option Command

/-- The commands. -/
def forms : List Form :=
  [{ name := "init", build := fun _ => some .init },
    { name := "status", build := fun _ => some .status },
    { name := "get"
      words := [.number]
      build := fun
        | { words := [.number id], .. } => some (.get id)
        | _ => none },
    { name := "list"
      words := [.text]
      switches := [revisionSwitch, limitSwitch, includeDeletedSwitch]
      build := fun
        | { words := [.text pattern], revision, limit, includeDeleted } =>
          some (.list pattern revision (limit.getD 0) includeDeleted.isSome)
        | _ => none },
    { name := "after"
      words := [.text, .number]
      switches := [limitSwitch]
      build := fun
        | { words := [.text pattern, .number revision], limit, .. } =>
          some (.after pattern revision (limit.getD 0))
        | _ => none },
    { name := "compact"
      words := [.number]
      build := fun
        | { words := [.number revision], .. } => some (.compact revision)
        | _ => none }]

/-- The arguments after a command. -/
def Form.grammar (f : Form) : Grammar Given where
  switches := helpSwitch :: f.switches
  place := some (placeWord f.words)

/-- Reads the arguments after a command. -/
def Form.parse (f : Form) (rest : List String) : Except UsageError (Notice ⊕ Command) := do
  match ← f.grammar.scan rest {} with
  | .notice notice => return .inl notice
  | .word _ word _ => throw (.unexpected word)
  | .all given =>
    match f.build given with
    | some command => return .inr command
    | none => throw (.missing ("the words of " ++ f.name))

/-- The form of a command. -/
def form? (name : String) : Option Form := forms.find? (·.name == name)

/-- The word that asks for help in place of a command. -/
def helpWord : String := "help"

/-- Reads the arguments after the word for help: nothing, or what help is asked for. -/
def parseHelp : List String → Except UsageError Notice
  | [] => .ok .help
  | [name] =>
    if name == helpWord || (form? name).isSome then .ok .help else .error (.unexpected name)
  | _ :: word :: _ => .error (.unexpected word)

/-- Reads the arguments of the program. -/
def parse (arguments : List String) : Except UsageError (Notice ⊕ Invocation) := do
  match ← globals.scan arguments {} with
  | .notice notice => return .inl notice
  | .all _ => throw .noCommand
  | .word given name rest =>
    if name == helpWord then return .inl (← parseHelp rest)
    match form? name with
    | none => throw (.unexpected name)
    | some form =>
      match ← form.parse rest with
      | .inl notice => return .inl notice
      | .inr command =>
        let base : Invocation := { command }
        return .inr { base with
          config := given.config.getD base.config
          database := given.database }

end Arguments

end RevisionLog
