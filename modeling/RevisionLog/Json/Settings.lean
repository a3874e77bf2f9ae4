import RevisionLog.Json.Record
import RevisionLog.Settings.Basic

/-!
# Settings as JSON

* `Settings.shape` — how settings are read from JSON; what is left out is as by default.
* `Json.entries?` — the members of a JSON object as named values.
-/

namespace RevisionLog

open Json (Shape)

/-- What has been read of settings. -/
structure Settings.Partial where
  path : Option String := none
  schemaMigration : Option Int := none

/-- How settings are read. -/
def Settings.shape : Shape Settings.Partial Settings where
  title := "struct SqliteConfig"
  fields :=
    [{ Json.Field.of "path" (·.path) (fun p x => { p with path := some x })
          (Json.readString "path string") with optional := true },
      { Json.Field.of "schema_migration" (·.schemaMigration)
          (fun p x => { p with schemaMigration := some x }) (Json.readInt "u64" 0 maxNat) with
        optional := true }]
  blank := {}
  build p :=
    let base : Settings := {}
    { path := p.path.getD base.path
      schemaMigration := (p.schemaMigration.map Int.toNat).getD base.schemaMigration }

namespace Json

/-- A value as a setting. -/
def setting : Json → Setting
  | null => .null
  | bool b => .flag b
  | int i => if minInt ≤ i && i ≤ maxInt then .int i else .real (.ofRatio (i < 0) i.natAbs 1)
  | real r => .real r
  | string s => .text s
  | array _ | object _ => .group

/-- What the members of an object give; `none` is text that is no object. -/
def entries? (text : String) : Option (List (String × Setting)) :=
  match parse? text with
  | some (object ms) => some (ms.map fun (k, v) => (k, v.setting))
  | _ => none

end Json

end RevisionLog
