import RevisionLog.Engine.Length

/-!
# The table

* `Table` — rows by ascending id, the source of new ids, and the indexes.
* `Table.append` — a row under a new id; `Table.add` — a row under an id of its own. A row is
  refused if its id or its place in a unique index is taken, and then if it is too long.
* `Table.retain` — the rows that pass a test.
-/

namespace RevisionLog

/-- Where the id of a new row comes from. -/
inductive IdSource
  /-- The id is above every id that was ever in the table; `last` is the highest of them, or 0. -/
  | counter (last : Int)
  /-- The id is above every id in the table. -/
  | highest
deriving DecidableEq, Repr

/-- The source once `id` has been in the table. -/
def IdSource.noting (id : Int) : IdSource → IdSource
  | counter last => counter (max last id)
  | highest => highest

/-- An index of the table. -/
structure Index where
  name : String
  columns : List String
  unique : Bool := false
deriving DecidableEq, Repr

/-- The table of the log. -/
structure Table where
  rows : List StoredRow
  ids : IdSource
  indexes : List Index
  /-- Rows stand by ascending id. -/
  ascending : rows.Pairwise (·.id < ·.id)
  /-- A counter is not negative and at least every id. -/
  counted : ∀ last, ids = .counter last → 0 ≤ last ∧ ∀ r ∈ rows, r.id ≤ last

/-- Puts a row before the first of a higher id. -/
def StoredRow.place (row : StoredRow) : List StoredRow → List StoredRow
  | [] => [row]
  | r :: rs => if row.id < r.id then row :: r :: rs else r :: row.place rs

namespace StoredRow

theorem mem_place {row r : StoredRow} {rs : List StoredRow} :
    r ∈ row.place rs ↔ r = row ∨ r ∈ rs := by
  induction rs with
  | nil => simp [place]
  | cons s rs ih =>
    simp only [place]
    split
    · simp
    · simp only [List.mem_cons, ih]
      constructor <;> rintro (h | h | h) <;> simp [h]

/-- A row goes behind all rows of lower ids. -/
theorem place_eq_append {row : StoredRow} {rs : List StoredRow} (h : ∀ r ∈ rs, r.id < row.id) :
    row.place rs = rs ++ [row] := by
  induction rs with
  | nil => rfl
  | cons s rs ih =>
    have hs : ¬ row.id < s.id := by have := h s (by simp); omega
    simp [place, hs, ih fun r hr => h r (by simp [hr])]

theorem pairwise_place {row : StoredRow} {rs : List StoredRow} (hs : rs.Pairwise (·.id < ·.id))
    (h : ∀ r ∈ rs, r.id ≠ row.id) : (row.place rs).Pairwise (·.id < ·.id) := by
  induction rs with
  | nil => simp [place]
  | cons s rs ih =>
    obtain ⟨hlt, hrs⟩ := List.pairwise_cons.1 hs
    simp only [place]
    split
    · rename_i hrow
      refine List.pairwise_cons.2 ⟨fun r hr => ?_, hs⟩
      rcases List.mem_cons.1 hr with rfl | hr
      · exact hrow
      · have := hlt r hr; omega
    · rename_i hrow
      refine List.pairwise_cons.2 ⟨fun r hr => ?_, ih hrs fun r hr => h r (by simp [hr])⟩
      rcases mem_place.1 hr with rfl | hr
      · have := h s (by simp); omega
      · exact hlt r hr

end StoredRow

namespace Table

/-- An empty table whose ids come from a counter. -/
def counting (indexes : List Index) : Table where
  rows := []
  ids := .counter 0
  indexes := indexes
  ascending := .nil
  counted := by simp

/-- An empty table that gives the id behind the highest. -/
def uncounted (indexes : List Index) : Table where
  rows := []
  ids := .highest
  indexes := indexes
  ascending := .nil
  counted := by simp

/-- The row with an id. -/
def find? (t : Table) (id : Int) : Option StoredRow := t.rows.find? (·.id == id)

/-- The highest id, if there is a row. -/
def maxId? (t : Table) : Option Int := t.rows.getLast?.map (·.id)

/-- The id that a new row gets, or `none` when ids are used up. -/
def nextId (t : Table) : Option Int :=
  match t.ids with
  | .counter last => if last < maxInt then some (last + 1) else none
  | .highest =>
    match t.maxId? with
    | none => some 1
    | some id => if id < maxInt then some (id + 1) else none

/-- Some index lets a name and a predecessor stand together only once. -/
def isUnique (t : Table) : Bool := t.indexes.any (·.unique)

/-- Some index orders the rows by name. -/
def hasNameOrder (t : Table) : Bool := t.indexes.any fun i => i.columns.head? == some "name"

/-- Puts a row in under its own id. -/
def add (t : Table) (row : StoredRow) : Except Fault Table :=
  if taken : ∃ r ∈ t.rows, r.id = row.id then .error .idTaken
  else if t.isUnique && t.rows.any (·.clashes row) then .error .placeTaken
  else if !row.fits then .error .tooBig
  else
    .ok {
      t with
      rows := row.place t.rows
      ids := t.ids.noting row.id
      ascending :=
        StoredRow.pairwise_place t.ascending fun r hr h => taken ⟨r, hr, h⟩
      counted := by
        intro last h
        cases hids : t.ids with
        | highest => simp [hids, IdSource.noting] at h
        | counter n =>
          obtain ⟨hn, hle⟩ := t.counted n hids
          simp only [hids, IdSource.noting, IdSource.counter.injEq] at h
          subst h
          refine ⟨by omega, fun r hr => ?_⟩
          rcases StoredRow.mem_place.1 hr with rfl | hr
          · omega
          · have := hle r hr; omega }

/-- Puts a row in under a new id, and answers the id. -/
def append (t : Table) (row : Int → StoredRow) : Except Fault (Int × Table) :=
  match t.nextId with
  | none => .error .full
  | some id => (t.add (row id)).map fun t => (id, t)

/-- The table with only the rows that pass a test. -/
def retain (t : Table) (keep : StoredRow → Bool) : Table where
  rows := t.rows.filter keep
  ids := t.ids
  indexes := t.indexes
  ascending := t.ascending.filter keep
  counted := fun last h =>
    ⟨(t.counted last h).1, fun r hr => (t.counted last h).2 r (List.mem_filter.1 hr).1⟩

/-- The table with other indexes. -/
def withIndexes (t : Table) (indexes : List Index) : Table := { t with indexes }

/-- The table without the row of an id, and with another row under an id of its own. -/
def replace (t : Table) (id : Int) (row : StoredRow) : Except Fault Table :=
  (t.retain (·.id != id)).add row

/-- The table whose source of ids counts an id as used. -/
def spend (t : Table) (id : Int) : Table where
  rows := t.rows
  ids := t.ids.noting id
  indexes := t.indexes
  ascending := t.ascending
  counted := by
    intro last h
    cases hids : t.ids with
    | highest => simp [hids, IdSource.noting] at h
    | counter n =>
      obtain ⟨hn, hle⟩ := t.counted n hids
      simp only [hids, IdSource.noting, IdSource.counter.injEq] at h
      subst h
      exact ⟨by omega, fun r hr => by have := hle r hr; omega⟩

/-- The id of a row whose cells come from elsewhere: its own, or a new one where it has none. -/
def idFor (t : Table) (id : Cell) : Except Fault Int :=
  match id.preferInteger with
  | .null =>
    match t.nextId with
    | none => .error .full
    | some id => .ok id
  | .int id => .ok id
  | _ => .error .mismatch

/-- Puts in a row whose cells come from elsewhere: each column makes of its cell what it prefers,
and a row without an id gets a new one. -/
def write (t : Table) (id : Cell) (row : StoredRow) : Except Fault Table := do
  t.add (row.preferred (← t.idFor id))

end Table

end RevisionLog
