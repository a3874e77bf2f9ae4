import RevisionLog.Proofs.CellOrder

/-!
# Rows that the log has written

`StoredRow.Logged r`: the log itself has written `r`, as a record or as a watermark. Such a row can
always be read (`Logged.read`), and a record is read as it was written but for the revision at which
its lifetime began (`record?_row`).
-/

namespace RevisionLog

/-- The row that a record is stored as. -/
def Record.row (r : Record) : StoredRow := r.toDraft.row r.id

theorem Draft.row_eq (d : Draft) (id : Int) : d.row id = (d.stored id).row := rfl

namespace Record

variable (r : Record)

@[simp] theorem row_id : r.row.id = r.id := rfl

@[simp] theorem row_name : r.row.name = .text r.name := rfl

@[simp] theorem row_deleted : r.row.deleted = .flag r.deleted := rfl

@[simp] theorem row_prevRevision : r.row.prevRevision = .int r.prevRevision := rfl

@[simp] theorem resolved_id : r.resolved.id = r.id := rfl

@[simp] theorem resolved_name : r.resolved.name = r.name := rfl

@[simp] theorem resolved_created : r.resolved.created = r.created := rfl

@[simp] theorem resolved_deleted : r.resolved.deleted = r.deleted := rfl

@[simp] theorem resolved_prevRevision : r.resolved.prevRevision = r.prevRevision := rfl

@[simp] theorem resolved_value : r.resolved.value = r.value := rfl

@[simp] theorem resolved_oldValue : r.resolved.oldValue = r.oldValue := rfl

@[simp] theorem resolved_createRevision : r.resolved.createRevision = r.birth := rfl

/-- Resolving a record does not move its birth. -/
@[simp] theorem birth_resolved : r.resolved.birth = r.birth := by
  simp only [birth, resolved_created, resolved_createRevision, resolved_id]
  by_cases h : r.created = true ∧ r.createRevision = 0
  · simp [h]
  · by_cases hc : r.created = true
    · have : r.createRevision ≠ 0 := fun h0 => h ⟨hc, h0⟩
      simp [this]
    · simp [hc]

end Record

@[simp] theorem Draft.stored_name (d : Draft) (id : Int) : (d.stored id).name = d.name := rfl

@[simp] theorem Draft.stored_prevRevision (d : Draft) (id : Int) :
    (d.stored id).prevRevision = d.prevRevision := rfl

namespace StoredRow

/-- The record that a row is read as, if it can be read. -/
def record? (r : StoredRow) : Option Record :=
  (r.read (.int 0) (.int 0)).toOption.map (·.toRow.record)

/-- The log has written the row. -/
inductive Logged : StoredRow → Prop
  | record (r : Record) : Logged r.row
  | watermark (revision id : Int) : Logged (watermark revision id)

@[simp] theorem watermark_id (revision id : Int) : (watermark revision id).id = id := rfl

@[simp] theorem watermark_name (revision id : Int) :
    (watermark revision id).name = .text sentinelName := rfl

@[simp] theorem watermark_deleted (revision id : Int) :
    (watermark revision id).deleted = .int 0 := rfl

@[simp] theorem watermark_prevRevision (revision id : Int) :
    (watermark revision id).prevRevision = .int revision := rfl

@[simp] theorem isSentinel_watermark (revision id : Int) :
    (watermark revision id).isSentinel = true := by
  simp [isSentinel]

@[simp] theorem isSentinel_row (r : Record) : r.row.isSentinel = (r.name == sentinelName) := by
  simp [isSentinel]

theorem isSentinel_congr (r s : StoredRow) (h : r.name = s.name) :
    r.isSentinel = s.isSentinel := by
  rw [isSentinel, isSentinel, h]

/-- What a record's row is read as. -/
theorem read_row (r : Record) (current compact : Option Int) :
    ∃ raw, r.row.read (.ofInt? current) (.ofInt? compact) = .ok raw ∧
      raw.currentRevision = current ∧ raw.compactRevision = compact ∧ raw.record = r :=
  ⟨{ currentRevision := current, compactRevision := compact, id := r.id, name := some r.name,
     created := some r.created, deleted := some r.deleted,
     createRevision := some r.createRevision, prevRevision := some r.prevRevision,
     lease := some r.lease, value := some r.value, oldValue := some r.oldValue },
    by
      obtain ⟨⟨name, created, deleted, _, _, _, _, _⟩, id⟩ := r
      cases current <;> cases compact <;> cases created <;> cases deleted <;> rfl,
    rfl, rfl, rfl⟩

/-- The record that a watermark is read as. -/
theorem read_watermark (revision id : Int) (current compact : Option Int) :
    ∃ raw, (watermark revision id).read (.ofInt? current) (.ofInt? compact) = .ok raw ∧
      raw.currentRevision = current ∧ raw.compactRevision = compact ∧
      raw.record = { name := sentinelName, prevRevision := revision, id } :=
  ⟨{ currentRevision := current, compactRevision := compact, id, name := some sentinelName,
     created := some false, deleted := some false, createRevision := some 0,
     prevRevision := some revision, lease := some 0 },
    by cases current <;> cases compact <;> rfl, rfl, rfl, rfl⟩

theorem record?_row (r : Record) : r.row.record? = some r.resolved := by
  obtain ⟨raw, hraw, -, -, hr⟩ := read_row r (some 0) (some 0)
  have h0 : r.row.read (.int 0) (.int 0) = .ok raw := hraw
  simp [record?, h0, Except.toOption, RawRow.toRow, hr]

theorem record?_watermark (revision id : Int) :
    (watermark revision id).record? =
      some ({ name := sentinelName, prevRevision := revision, id } : Record) := by
  obtain ⟨raw, hraw, -, -, hr⟩ := read_watermark revision id (some 0) (some 0)
  have h0 : (watermark revision id).read (.int 0) (.int 0) = .ok raw := hraw
  simp [record?, h0, Except.toOption, RawRow.toRow, hr, Record.resolved, Record.birth]

namespace Logged

variable {r : StoredRow}

/-- A row of the log can be read, with any two revisions, and these are read as they are. -/
theorem read (h : r.Logged) (current compact : Option Int) :
    ∃ raw, r.read (.ofInt? current) (.ofInt? compact) = .ok raw ∧
      raw.currentRevision = current ∧ raw.compactRevision = compact ∧
      r.record? = some raw.toRow.record := by
  cases h with
  | record r =>
    obtain ⟨raw, hraw, hcurrent, hcompact, hr⟩ := read_row r current compact
    exact ⟨raw, hraw, hcurrent, hcompact, by simp [record?_row, RawRow.toRow, hr]⟩
  | watermark revision id =>
    obtain ⟨raw, hraw, hcurrent, hcompact, hr⟩ := read_watermark revision id current compact
    exact ⟨raw, hraw, hcurrent, hcompact, by
      simp [record?_watermark, RawRow.toRow, hr, Record.resolved, Record.birth]⟩

/-- What is read has the id and the name of the row. -/
theorem record?_eq (h : r.Logged) :
    ∃ rec, r.record? = some rec ∧ rec.id = r.id ∧ r.name = .text rec.name := by
  cases h with
  | record r => exact ⟨_, record?_row r, rfl, rfl⟩
  | watermark revision id => exact ⟨_, record?_watermark revision id, rfl, rfl⟩

theorem isSentinel_iff (h : r.Logged) : r.isSentinel = true ↔ r.name = .text sentinelName := by
  obtain ⟨rec, -, -, hname⟩ := h.record?_eq
  rw [isSentinel, hname]
  simp

theorem prevRevision_int (h : r.Logged) : ∃ i, r.prevRevision = .int i := by
  cases h with
  | record r => exact ⟨r.prevRevision, rfl⟩
  | watermark revision id => exact ⟨revision, rfl⟩

end Logged

end StoredRow

end RevisionLog
