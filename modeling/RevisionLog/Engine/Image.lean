import RevisionLog.Engine.DatabaseFile
import RevisionLog.Json.Reader

/-!
# Images of databases

A database is kept in a file as JSON text. `DatabaseFile.image` writes it and
`DatabaseFile.ofImage?` reads it; text that is no image is no database.
-/

namespace RevisionLog

namespace Json

/-- What stands under a key of an object. -/
def member? (key : String) : Json → Option Json
  | object ms => ms.lookup key
  | _ => none

/-- Whether the value is null. -/
def isNull : Json → Bool
  | null => true
  | _ => false

/-- An integer. -/
def int? : Json → Option Int
  | int i => some i
  | _ => none

/-- A flag. -/
def bool? : Json → Option Bool
  | bool b => some b
  | _ => none

/-- A string. -/
def string? : Json → Option String
  | string s => some s
  | _ => none

/-- The items of an array, each read by `f`. -/
def list? {α : Type} (f : Json → Option α) : Json → Option (List α)
  | array vs => vs.mapM f
  | _ => none

end Json

namespace Cell

/-- A cell in an image: text stands for itself, bytes are an array, and a real number is an object
of its parts. -/
def toJson : Cell → Json
  | null => .null
  | int i => .int i
  | text s => .string s
  | blob b => .ofBytes b
  | real (.finite negative mantissa exponent) =>
    .object [("negative", .bool negative), ("mantissa", .int mantissa), ("exponent", .int exponent)]
  | real (.infinite negative) => .object [("negative", .bool negative)]
  | real .nan => .object []

/-- A number from its parts. -/
def ofParts? (v : Json) : Option Binary64 :=
  match v.member? "negative", v.member? "mantissa", v.member? "exponent" with
  | some n, some m, some e => do return .finite (← n.bool?) (← m.int?).toNat (← e.int?)
  | some n, none, none => do return .infinite (← n.bool?)
  | none, none, none => some .nan
  | _, _, _ => none

/-- A byte. -/
def byte? (v : Json) : Option UInt8 := do return UInt8.ofNat (← v.int?).toNat

/-- A cell read from an image. -/
def ofJson? : Json → Option Cell
  | .null => some .null
  | .int i => some (.int i)
  | .string s => some (.text s)
  | .array bs => (Json.list? byte? (.array bs)).map .blob
  | .object ms => (ofParts? (.object ms)).map .real
  | .bool _ | .real _ => none

end Cell

namespace StoredRow

/-- A row in an image. -/
def toJson (r : StoredRow) : Json :=
  .array (.int r.id ::
    [r.name, r.created, r.deleted, r.createRevision, r.prevRevision, r.lease, r.value,
      r.oldValue].map Cell.toJson)

/-- A row read from an image. -/
def ofJson? (v : Json) : Option StoredRow := do
  match v with
  | .array (.int id :: cells) =>
    match ← cells.mapM Cell.ofJson? with
    | [name, created, deleted, createRevision, prevRevision, lease, value, oldValue] =>
      return { id, name, created, deleted, createRevision, prevRevision, lease, value, oldValue }
    | _ => none
  | _ => none

end StoredRow

namespace Index

/-- An index in an image. -/
def toJson (i : Index) : Json :=
  .object [("name", .string i.name), ("columns", .array (i.columns.map .string)),
    ("unique", .bool i.unique)]

/-- An index read from an image. -/
def ofJson? (v : Json) : Option Index := do
  return {
    name := ← (← v.member? "name").string?
    columns := ← (← v.member? "columns").list? Json.string?
    unique := ← (← v.member? "unique").bool? }

end Index

namespace Table

/-- The table in an image. -/
def toJson (t : Table) : Json :=
  let last :=
    match t.ids with
    | .counter last => Json.int last
    | .highest => .null
  .object [("last", last), ("indexes", .array (t.indexes.map Index.toJson)),
    ("rows", .array (t.rows.map StoredRow.toJson))]

/-- The empty table with a source of ids as an image gives it. -/
def ofSource? (v : Json) : Option Table :=
  if v.isNull then some (uncounted []) else v.int?.map (counting []).spend

/-- The table read from an image. -/
def ofJson? (v : Json) : Option Table := do
  let indexes ← (← v.member? "indexes").list? Index.ofJson?
  let rows ← (← v.member? "rows").list? StoredRow.ofJson?
  let table ← ofSource? (← v.member? "last")
  let filled ← rows.foldlM (fun t r => (t.add r).toOption) table
  return filled.withIndexes indexes

end Table

namespace Database

/-- What marks an image. -/
def imageMark : String := "revision log"

/-- The database in an image. -/
def toJson (db : Database) : Json :=
  .object [("mark", .string imageMark), ("table", (db.table.map Table.toJson).getD .null),
    ("view", .bool db.hasView), ("counters", .bool db.hasCounters),
    ("tables", .array (db.otherTables.map .string)),
    ("indexes", .array (db.otherIndexes.map .string))]

/-- The table of an image, which may be absent. -/
def table? : Json → Option (Option Table)
  | .null => some none
  | v => (Table.ofJson? v).map some

/-- The database read from an image. -/
def ofJson? (v : Json) : Option Database := do
  let mark ← (← v.member? "mark").string?
  if mark != imageMark then none
  return {
    table := ← table? (← v.member? "table")
    hasView := ← (← v.member? "view").bool?
    hasCounters := ← (← v.member? "counters").bool?
    otherTables := ← (← v.member? "tables").list? Json.string?
    otherIndexes := ← (← v.member? "indexes").list? Json.string? }

end Database

namespace DatabaseFile

/-- The text that a file holds for its database. -/
def image (f : DatabaseFile) : String :=
  String.ofList (Json.object [("log", .bool f.hasLog), ("database", f.database.toJson)]).compact

/-- The file whose text is an image. -/
def ofImage? (text : String) : Option DatabaseFile := do
  let v ← Json.parse? text
  return {
    database := ← Database.ofJson? (← v.member? "database")
    hasLog := ← (← v.member? "log").bool? }

end DatabaseFile

end RevisionLog
