import RevisionLog.Text.Utf8

/-!
# Records of the log

Every write appends one record, and history is never changed. The id of a record is the revision
of the log that its write made.

* `Draft` — a record about to be appended; `Draft.create`, `Draft.update`, `Draft.recreate` and
  `Draft.tombstone` make the four kinds of write.
* `Record` — a draft with the id it was given.
* `Row` — a record as a query answers it, with the two revisions that held when the query ran.
-/

namespace RevisionLog

/-- The name of the records that keep the compaction watermark, in their `prevRevision`. It is not
a key. -/
def sentinelName : String := "compact_rev_key"

/-- A record about to be appended. -/
structure Draft where
  name : String := ""
  /-- This record begins a lifetime of its key. -/
  created : Bool := false
  /-- This record ends the lifetime of its key. -/
  deleted : Bool := false
  /-- The id of the record that began the current lifetime, 0 in the record that begins it. -/
  createRevision : Int := 0
  /-- The id of the version before this one, 0 for the first. -/
  prevRevision : Int := 0
  /-- The lease that the key hangs on, 0 for none. -/
  lease : Int := 0
  value : Bytes := []
  /-- The value of the version before this one. -/
  oldValue : Bytes := []
deriving DecidableEq, Repr, Inhabited

/-- One version of a key, as it stands in the log. -/
structure Record extends Draft where
  id : Int := 0
deriving DecidableEq, Repr, Inhabited

/-- A record and the revisions that held when it was read. -/
structure Row where
  /-- The highest id in the log. -/
  currentRevision : Int
  /-- The compaction watermark. -/
  compactRevision : Int
  record : Record
deriving DecidableEq, Repr, Inhabited

/-- The record that `draft` becomes under an id. -/
def Draft.stored (draft : Draft) (id : Int) : Record := { draft with id }

/-- The revision at which the current lifetime of the key began. A record that begins a lifetime is
written before its id is known, so it holds 0 and its own id is meant. -/
def Record.birth (r : Record) : Int :=
  if r.created && r.createRevision == 0 then r.id else r.createRevision

/-- The record with `createRevision` made the revision meant by it. -/
def Record.resolved (r : Record) : Record := { r with createRevision := r.birth }

namespace Draft

/-- The first version of a key that has none. -/
def create (name : String) (value : Bytes) : Draft := { name, created := true, value }

/-- A new version in place of `prev`. -/
def update (prev : Record) (value : Bytes) : Draft where
  name := prev.name
  createRevision := prev.birth
  prevRevision := prev.id
  lease := prev.lease
  value := value
  oldValue := prev.value

/-- The first version of a new lifetime, after the tombstone that ended the last one. -/
def recreate (tombstone : Record) (value : Bytes) : Draft :=
  { create tombstone.name value with prevRevision := tombstone.id }

/-- The end of a lifetime; it keeps the last value. -/
def tombstone (prev : Record) : Draft :=
  { update prev [] with deleted := true, value := prev.value }

/-- The draft on another lease. -/
def withLease (draft : Draft) (lease : Int) : Draft := { draft with lease }

end Draft

@[simp] theorem Draft.stored_id (draft : Draft) (id : Int) : (draft.stored id).id = id := rfl

@[simp] theorem Draft.toDraft_stored (draft : Draft) (id : Int) :
    (draft.stored id).toDraft = draft := rfl

end RevisionLog
