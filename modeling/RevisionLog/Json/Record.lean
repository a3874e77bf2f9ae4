import RevisionLog.Engine.Cell
import RevisionLog.Json.Shape
import RevisionLog.Record

/-!
# Records as JSON

Records, drafts and rows are written as objects with their fields in order, and bytes as arrays of
numbers. Reading accepts the fields in any order.

* `Record.toJson`, `Draft.toJson`, `Row.toJson` — a value as JSON.
* `Record.shape`, `Draft.shape`, `Row.shape` — how it is read.
-/

namespace RevisionLog

open Json (Shape Reader)

/-- The fields of a draft as JSON. -/
def Draft.members (d : Draft) : List (String × Json) :=
  [("name", .string d.name), ("created", .bool d.created), ("deleted", .bool d.deleted),
    ("create_revision", .int d.createRevision), ("prev_revision", .int d.prevRevision),
    ("lease", .int d.lease), ("value", .ofBytes d.value), ("old_value", .ofBytes d.oldValue)]

/-- A draft as JSON. -/
def Draft.toJson (d : Draft) : Json := .object d.members

/-- A record as JSON. -/
def Record.toJson (r : Record) : Json := .object (("id", .int r.id) :: r.members)

/-- A row as JSON. -/
def Row.toJson (r : Row) : Json :=
  .object [("current_revision", .int r.currentRevision),
    ("compact_revision", .int r.compactRevision), ("record", r.record.toJson)]

/-- A signed 64-bit integer. -/
def Json.readInt64 : Reader Int := Json.readInt "i64" minInt maxInt

/-- A field that holds a `β` and is kept in a part of `π`. -/
def Json.Field.of {π β : Type} (name : String) (kept : π → Option β) (keep : π → β → π)
    (read : Reader β) : Json.Field π where
  name := name
  isSet p := (kept p).isSome
  read p cs := (read cs).map fun (b, rest) => (keep p b, rest)

/-- What has been read of a record. -/
structure Record.Partial where
  id : Option Int := none
  name : Option String := none
  created : Option Bool := none
  deleted : Option Bool := none
  createRevision : Option Int := none
  prevRevision : Option Int := none
  lease : Option Int := none
  value : Option Bytes := none
  oldValue : Option Bytes := none

namespace Record.Partial

/-- The field of the id. -/
def idField : Json.Field Record.Partial :=
  .of "id" (·.id) (fun p x => { p with id := some x }) Json.readInt64

/-- The fields of a draft, in order. -/
def draftFields : List (Json.Field Record.Partial) :=
  [.of "name" (·.name) (fun p x => { p with name := some x }) (Json.readString "a string"),
    .of "created" (·.created) (fun p x => { p with created := some x })
      (Json.readBool "a boolean"),
    .of "deleted" (·.deleted) (fun p x => { p with deleted := some x })
      (Json.readBool "a boolean"),
    .of "create_revision" (·.createRevision) (fun p x => { p with createRevision := some x })
      Json.readInt64,
    .of "prev_revision" (·.prevRevision) (fun p x => { p with prevRevision := some x })
      Json.readInt64,
    .of "lease" (·.lease) (fun p x => { p with lease := some x }) Json.readInt64,
    .of "value" (·.value) (fun p x => { p with value := some x }) Json.readBytes,
    .of "old_value" (·.oldValue) (fun p x => { p with oldValue := some x }) Json.readBytes]

/-- The draft that has been read. -/
def toDraft (p : Record.Partial) : Draft where
  name := p.name.getD ""
  created := p.created.getD false
  deleted := p.deleted.getD false
  createRevision := p.createRevision.getD 0
  prevRevision := p.prevRevision.getD 0
  lease := p.lease.getD 0
  value := p.value.getD []
  oldValue := p.oldValue.getD []

end Record.Partial

/-- How a record is read. -/
def Record.shape : Shape Record.Partial Record where
  title := "struct Record"
  fields := Record.Partial.idField :: Record.Partial.draftFields
  blank := {}
  build p := p.toDraft.stored (p.id.getD 0)

/-- How a draft is read. -/
def Draft.shape : Shape Record.Partial Draft where
  title := "struct NewRecord"
  fields := Record.Partial.draftFields
  blank := {}
  build p := p.toDraft

/-- What has been read of a row. -/
structure Row.Partial where
  currentRevision : Option Int := none
  compactRevision : Option Int := none
  record : Option Record := none

/-- How a row is read. -/
def Row.shape : Shape Row.Partial Row where
  title := "struct Row"
  fields :=
    [.of "current_revision" (·.currentRevision) (fun p x => { p with currentRevision := some x })
        Json.readInt64,
      .of "compact_revision" (·.compactRevision) (fun p x => { p with compactRevision := some x })
        Json.readInt64,
      .of "record" (·.record) (fun p x => { p with record := some x }) Record.shape.read]
  blank := {}
  build p := ⟨p.currentRevision.getD 0, p.compactRevision.getD 0, p.record.getD default⟩

end RevisionLog
