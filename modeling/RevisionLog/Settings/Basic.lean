import RevisionLog.Decimal.Numeral

/-!
# Settings

* `Setting` — a value that a configuration gives, whatever it is written in; `Setting.text?` and
  `Setting.count?` read it as what is needed.
* `Settings` — what a store is opened with; `Settings.ofEntries?` takes it from named values.
-/

namespace RevisionLog

/-- A value that a configuration gives. -/
inductive Setting
  | null
  | flag (b : Bool)
  | int (i : Int)
  | real (r : Binary64)
  | text (s : String)
  /-- A table or a list; none of the settings is one. -/
  | group
deriving DecidableEq, Repr

/-- The text in lower case as far as ASCII letters come of it. Beside their own upper case that is
one character more, the sign for degrees Kelvin. -/
def lowered (s : String) : String := s.map fun c => if c == '\u212a' then 'k' else c.toLower

namespace Setting

/-- A value as text. -/
def text? : Setting → Option String
  | flag b => some (toString b)
  | int i => some (toString i)
  | real r => some r.plain
  | text s => some s
  | null | group => none

/-- A word or a number as a count. -/
def countOfText? (s : String) : Option Nat :=
  match lowered s with
  | "true" | "on" | "yes" => some 1
  | "false" | "off" | "no" => some 0
  | _ => Digits.nat64? s

/-- A value as a count. A number with a fraction is rounded, and cut to the counts there are. -/
def count? : Setting → Option Nat
  | flag b => some b.toNat
  | int i => if 0 ≤ i && i ≤ maxNat then some i.toNat else none
  | real r => some (r.roundNat maxNat)
  | text s => countOfText? s
  | null | group => none

end Setting

/-- What a store is opened with. -/
structure Settings where
  /-- Where the database lies. -/
  path : String := "./db/state.db"
  /-- How many migrations are replayed. -/
  schemaMigration : Nat := 0
deriving DecidableEq, Repr

namespace Settings

/-- The last value given under a name; names count in either case. -/
def find? (entries : List (String × Setting)) (name : String) : Option Setting :=
  (entries.reverse.find? fun e => lowered e.1 == name).map (·.2)

/-- The settings that entries give. Later entries count more, what no entry gives is as it is by
default, and `none` is a value that is not of its kind. -/
def ofEntries? (entries : List (String × Setting)) : Option Settings := do
  let base : Settings := {}
  return {
    path := ← ((find? entries "path").map Setting.text?).getD base.path
    schemaMigration :=
      ← ((find? entries "schema_migration").map Setting.count?).getD base.schemaMigration }

end Settings

end RevisionLog
