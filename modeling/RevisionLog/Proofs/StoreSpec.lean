import RevisionLog.Proofs.TableSpec
import RevisionLog.Store

/-!
# What the operations of a store do

`Store.Serves s t`: the store `s` works on the table `t`, can write to it, and classes the engine's
faults as SQLite's dialect does. Reads answer what the table answers (`Serves.query`), and a write
that succeeds leaves a store on the changed table, whichever way the dialect has an insertion answer
its id, while one that fails leaves the store as it was (`Serves.insert_outcome`). Which of them
fail, and how, is said by `Serves.insert_cases` and `Serves.setCompactRevision_cases`.

`Store.IsEmpty s`: the store is on an empty log. Opening a store on a new database makes one
(`isEmpty_open`), whatever migrations are asked for.
-/

namespace RevisionLog

@[simp] theorem mapError_ok {ε ε' α : Type} (f : ε → ε') (a : α) :
    (Except.ok a).mapError f = .ok a := rfl

@[simp] theorem mapError_error {ε ε' α : Type} (f : ε → ε') (e : ε) :
    (Except.error e : Except ε α).mapError f = .error (f e) := rfl

theorem mapError_eq_ok {ε ε' α : Type} {f : ε → ε'} {x : Except ε α} {a : α} :
    x.mapError f = .ok a ↔ x = .ok a := by
  cases x <;> simp

namespace Store

variable {α : Type}

/-- The table that the store works on. -/
def table? (s : Store) : Option Table := s.connection.toOption.bind (·.table)

/-- The records of a name that are in the log, the oldest first. -/
def versions (s : Store) (name : String) : List Record :=
  (s.table?.map (·.versions name)).getD []

/-- The latest record of a name, if it has any. -/
def latest (s : Store) (name : String) : Option Record := (s.versions name).getLast?

/-- The engine has an id left for a new row. -/
def HasRoom (s : Store) : Prop := ∃ t id, s.table? = some t ∧ t.nextId = some id

/-- The store refuses the draft as a lost compare-and-swap, and nothing changes. -/
def Refuses (s : Store) (d : Draft) : Prop := ∃ e, s.insert d = (.error e, s) ∧ e.isKeyExists = true

theorem Refuses.not_ok {s : Store} {d : Draft} (h : s.Refuses d) :
    ¬ ∃ id s', s.insert d = (.ok id, s') := by
  obtain ⟨e, he, -⟩ := h
  rintro ⟨id, s', hok⟩
  rw [he] at hok
  cases hok

/-- The store refuses the draft as too long, and nothing changes. -/
def RefusesLength (s : Store) (d : Draft) : Prop :=
  ∃ said, s.insert d = (.error (s.dialect.logError (.failure 18 said)), s)

/-- The store would take the revision for a watermark. -/
def accepts (s : Store) (revision : Int) : Bool := (s.setCompactRevision revision).1.isOk

/-- The store works on the table, and can write to it. -/
structure Serves (s : Store) (t : Table) : Prop where
  table : s.table? = some t
  free : s.blocked = none
  classify : s.dialect.classify = Fault.classify

/-- The store is on an empty log. -/
structure IsEmpty (s : Store) : Prop where
  table : ∃ t, s.table? = some t ∧ t.rows = [] ∧ t.ids = .counter 0 ∧ t.isUnique = true
  free : s.blocked = none
  classify : s.dialect.classify = Fault.classify

theorem RefusesLength.not_ok {s : Store} {d : Draft} (h : s.RefusesLength d) :
    ¬ ∃ id s', s.insert d = (.ok id, s') := by
  obtain ⟨said, he⟩ := h
  rintro ⟨id, s', hok⟩
  rw [he] at hok
  cases hok

/-- What can be bound is bound, and the table is asked. -/
theorem enter_eq_update {s : Store} {row : StoredRow} {f : Table → Except Fault (α × Table)}
    (h : row.isBindable = true) : s.enter row f = s.update f := by
  simp only [enter, update, StoredRow.bound_ok h]
  rfl

namespace Serves

variable {s s' : Store} {t t' : Table}

/-- The connection of a store that works on a table. -/
theorem connection (h : s.Serves t) :
    ∃ db, s.connection = .ok db ∧ db.table = some t := by
  have ht := h.table
  unfold table? at ht
  cases hc : s.connection with
  | error e => simp [hc, Except.toOption] at ht
  | ok db => exact ⟨db, rfl, by simpa [hc, Except.toOption] using ht⟩

theorem versions_eq (h : s.Serves t) (name : String) : s.versions name = t.versions name := by
  simp [versions, h.table]

theorem latest_eq (h : s.Serves t) (name : String) : s.latest name = t.latest name := by
  rw [latest, h.versions_eq, Table.latest]

theorem hasRoom_iff (h : s.Serves t) {last : Int} (hc : t.ids = .counter last) :
    s.HasRoom ↔ last < maxInt := by
  constructor
  · rintro ⟨t', id, ht', hid⟩
    rw [h.table, Option.some.injEq] at ht'
    subst ht'
    simp only [Table.nextId, hc] at hid
    split at hid
    · assumption
    · cases hid
  · exact fun hlt => ⟨t, last + 1, h.table, by simp [Table.nextId, hc, hlt]⟩

/-! ## Reads -/

theorem query (h : s.Serves t) (f : Table → Except Fault α) :
    s.query f = (f t).mapError s.dialect.logError := by
  obtain ⟨db, hc, ht⟩ := h.connection
  simp [Store.query, call, hc, Database.query, ht]

theorem currentRevision (h : s.Serves t) : s.currentRevision = .ok t.currentRevision := by
  rw [Store.currentRevision, h.query]
  rfl

theorem compactRevision_eq (h : s.Serves t) (hlog : ∀ r ∈ t.rows, r.Logged) :
    s.compactRevision = .ok t.watermark := by
  rw [Store.compactRevision, h.query, Table.compactRevision_eq hlog]
  rfl

/-! ## Writes -/

theorem update_ok (h : s.Serves t) {f : Table → Except Fault (α × Table)} {a : α}
    (hf : f t = .ok (a, t')) :
    ∃ s', s.update f = (.ok a, s') ∧ s'.Serves t' ∧ s'.dialect = s.dialect := by
  obtain ⟨db, hc, ht⟩ := h.connection
  refine ⟨{ s with connection := .ok { db with table := some t' } }, ?_, ?_, rfl⟩
  · simp [update, call, hc, Database.update, Database.query, ht, guarded, h.free, hf]
  · exact ⟨rfl, h.free, h.classify⟩

theorem update_error (h : s.Serves t) {f : Table → Except Fault (α × Table)} {e : Fault}
    (hf : f t = .error e) : s.update f = (.error (s.dialect.logError e), s) := by
  obtain ⟨db, hc, ht⟩ := h.connection
  have hb := h.free
  obtain ⟨dialect, connection, blocked, lastId⟩ := s
  simp only at hc hb
  subst hc hb
  simp [update, call, Database.update, Database.query, ht, guarded, hf]

theorem enter_error (h : s.Serves t) {row : StoredRow} (hlong : row.isBindable = false)
    (f : Table → Except Fault (α × Table)) :
    ∃ said, s.enter row f = (.error (s.dialect.logError (.failure 18 said)), s) := by
  obtain ⟨db, hc, ht⟩ := h.connection
  obtain ⟨said, he⟩ := StoredRow.bound_error hlong
  obtain ⟨dialect, connection, blocked, lastId⟩ := s
  simp only at hc
  subst hc
  exact ⟨said, by simp [enter, call, Database.update, Database.query, ht, he, bind, Except.bind]⟩

/-- The connection remembers the id of a new row. -/
theorem append_ok (h : s.Serves t) {row : Int → StoredRow} {id : Int}
    (hcells : ∀ i, (row i).cells = (row 0).cells) (ha : t.append row = .ok (id, t')) :
    ∃ s', s.append row = (.ok id, s') ∧ s'.Serves t' ∧ s'.lastId = id := by
  obtain ⟨s', hu, hs', -⟩ := h.update_ok (f := (·.append row)) ha
  have hbind : (row 0).isBindable = true := by
    have := StoredRow.isBindable_of_fits (Table.append_fits ha)
    rwa [StoredRow.isBindable, hcells id] at this
  exact ⟨{ s' with lastId := id }, by simp [append, enter_eq_update hbind, hu],
    ⟨hs'.table, hs'.free, hs'.classify⟩, rfl⟩

/-- What cannot be bound fails before the table is asked. -/
theorem append_error (h : s.Serves t) {row : Int → StoredRow} {e : Fault}
    (ha : t.append row = .error e) :
    ∃ e', s.append row = (.error (s.dialect.logError e'), s) ∧
      ((row 0).isBindable = true ∧ e' = e ∨
        (row 0).isBindable = false ∧ ∃ said, e' = .failure 18 said) := by
  cases hbind : (row 0).isBindable with
  | true =>
    exact ⟨e, by simp [append, enter_eq_update hbind, h.update_error (f := (·.append row)) ha],
      .inl ⟨rfl, rfl⟩⟩
  | false =>
    obtain ⟨said, he⟩ := h.enter_error hbind (·.append row)
    exact ⟨.failure 18 said, by simp [append, he], .inr ⟨rfl, said, rfl⟩⟩

/-- A row is put in, or nothing changes. -/
theorem append_outcome (h : s.Serves t) (row : Int → StoredRow)
    (hcells : ∀ i, (row i).cells = (row 0).cells) :
    (∃ id s' t', t.append row = .ok (id, t') ∧ s.append row = (.ok id, s') ∧ s'.Serves t' ∧
        s'.lastId = id) ∨
      ∃ e, s.append row = (.error e, s) := by
  cases ha : t.append row with
  | error e =>
    obtain ⟨e', he, -⟩ := h.append_error ha
    exact .inr ⟨_, he⟩
  | ok p =>
    obtain ⟨id, t'⟩ := p
    obtain ⟨s', hs, ht', hid⟩ := h.append_ok hcells ha
    exact .inl ⟨id, s', t', rfl, hs, ht', hid⟩

/-- Both ways of answering an id answer that of the new row. -/
theorem insert_ok (h : s.Serves t) {d : Draft} {id : Int} (ha : t.append d.row = .ok (id, t')) :
    ∃ s', s.insert d = (.ok id, s') ∧ s'.Serves t' := by
  obtain ⟨s', hs, hs', hid⟩ := h.append_ok (fun _ => rfl) ha
  exact ⟨s', by simp [insert, hs, hid], hs'⟩

theorem insert_error (h : s.Serves t) {d : Draft} {e : Fault} (ha : t.append d.row = .error e) :
    ∃ e', s.insert d = (.error (s.dialect.logError e'), s) ∧
      (d.isBindable = true ∧ e' = e ∨ d.isBindable = false ∧ ∃ said, e' = .failure 18 said) := by
  obtain ⟨e', he, hcause⟩ := h.append_error ha
  exact ⟨e', by simp [insert, he], hcause⟩

/-- A draft is put in, or nothing changes. -/
theorem insert_outcome (h : s.Serves t) (d : Draft) :
    (∃ id s' t', t.append d.row = .ok (id, t') ∧ s.insert d = (.ok id, s') ∧ s'.Serves t') ∨
      ∃ e, s.insert d = (.error e, s) := by
  rcases h.append_outcome d.row fun _ => rfl with
    ⟨id, s', t', ha, hs, ht', hid⟩ | ⟨e, he⟩
  · exact .inl ⟨id, s', t', ha, by simp [insert, hs, hid], ht'⟩
  · exact .inr ⟨e, by simp [insert, he]⟩

theorem compact_ok (h : s.Serves t) {revision : Int} {sweep : Table.Sweep}
    (hs : t.sweep revision = .ok (sweep, t')) :
    ∃ s', s.compact revision = (.ok sweep, s') ∧ s'.Serves t' ∧ s'.dialect = s.dialect := by
  obtain ⟨db, hc, ht⟩ := h.connection
  refine ⟨{ s with connection := .ok { db with table := some t' } }, ?_,
    ⟨rfl, h.free, h.classify⟩, rfl⟩
  simp [compact, call, hc, Database.update, Database.query, ht, guarded, h.free, hs, bind,
    Except.bind, pure, Except.pure]

/-- A taken place is a lost compare-and-swap. -/
theorem isKeyExists_placeTaken (h : s.Serves t) :
    (s.dialect.logError .placeTaken).isKeyExists = true := by
  simp [Dialect.logError, h.classify, Fault.placeTaken, Fault.classify, LogError.isKeyExists]

theorem isKeyExists_full (h : s.Serves t) : (s.dialect.logError .full).isKeyExists = false := by
  simp [Dialect.logError, h.classify, Fault.full, Fault.classify, LogError.isKeyExists]

theorem isKeyExists_length (h : s.Serves t) (said : Option String) :
    (s.dialect.logError (.failure 18 said)).isKeyExists = false := by
  simp [Dialect.logError, h.classify, Fault.classify, LogError.isKeyExists]

/-- A draft finds no id left, or its place taken, or is too long, or is put in. What is too long to
be bound is that in any case. -/
theorem insert_cases (h : s.Serves t) {last : Int} (hc : t.ids = .counter last)
    (hu : t.isUnique = true) (d : Draft) :
    let taken := ∃ r ∈ t.rows, r.clashes (d.row (last + 1)) = true
    (∃ e, s.insert d = (.error e, s) ∧ e.isKeyExists = false ∧ ¬ s.HasRoom) ∨
      (s.Refuses d ∧ s.HasRoom ∧ taken) ∨
      (s.RefusesLength d ∧ lengthLimit < d.bytes + 74) ∨
      (∃ id s', s.insert d = (.ok id, s')) ∧ s.HasRoom ∧ ¬ taken ∧
        d.bytes + 10 ≤ lengthLimit := by
  intro taken
  rw [h.hasRoom_iff hc]
  by_cases hbind : d.isBindable = true
  · have herror : ∀ e, t.append d.row = .error e →
        s.insert d = (.error (s.dialect.logError e), s) := fun e ha => by
      obtain ⟨e', he, ⟨-, rfl⟩ | ⟨hno, -⟩⟩ := h.insert_error ha
      · exact he
      · simp [hbind] at hno
    rcases Table.append_cases hc hu d.row fun _ => rfl with
      ⟨ha, hfull⟩ | ⟨ha, hroom, htaken⟩ | ⟨ha, -, -, hlong⟩ | ⟨⟨t', ha⟩, hroom, hfree, hfits⟩
    · exact .inl ⟨_, herror _ ha, h.isKeyExists_full, by omega⟩
    · exact .inr (.inl ⟨⟨_, herror _ ha, h.isKeyExists_placeTaken⟩, hroom, htaken⟩)
    · refine .inr (.inr (.inl ⟨⟨_, herror _ ha⟩, Nat.lt_of_not_le fun hle => ?_⟩))
      simp [Draft.fits_of_bytes_le hle] at hlong
    · obtain ⟨s', hs, -⟩ := h.insert_ok ha
      exact .inr (.inr (.inr ⟨⟨_, s', hs⟩, hroom, hfree, Draft.bytes_le_of_fits hfits⟩))
  · obtain ⟨said, he⟩ := h.enter_error (Bool.eq_false_iff.2 hbind) (·.append d.row)
    have hlong : lengthLimit < d.bytes :=
      Nat.lt_of_not_le fun hle => hbind (Draft.isBindable_of_bytes_le hle)
    exact .inr (.inr (.inl ⟨⟨said, by simp [insert, append, he]⟩, by omega⟩))

/-! ### Watermarks -/

variable {revision : Int}

/-- A watermark is never too long. -/
theorem append_watermark_error (h : s.Serves t) {e : Fault}
    (ha : t.append (.watermark revision) = .error e) :
    s.append (.watermark revision) = (.error (s.dialect.logError e), s) := by
  obtain ⟨e', he, ⟨-, rfl⟩ | ⟨hlong, -⟩⟩ := h.append_error ha
  · exact he
  · rw [StoredRow.isBindable_of_fits (StoredRow.fits_watermark _ _)] at hlong
    cases hlong

/-- A revision is recorded as a mark, unless it is one already or no id is left. -/
theorem setCompactRevision_cases (h : s.Serves t) (ht : t.Regular) (revision : Int) :
    (∃ s' id t', s.setCompactRevision revision = (.ok (), s') ∧ s'.Serves t' ∧
        t.append (.watermark revision) = .ok (id, t') ∧ revision ∉ t.marks ∧ s.HasRoom) ∨
      ∃ e, s.setCompactRevision revision = (.error e, s) ∧
        (e.isKeyExists = true ∧ revision ∈ t.marks ∧ s.HasRoom ∨
          e.isKeyExists = false ∧ ¬ s.HasRoom) := by
  obtain ⟨last, hc⟩ := ht.counter
  rw [h.hasRoom_iff hc, Table.mem_marks_iff_clashes ht.logged (last + 1)]
  have herror : ∀ e, t.append (.watermark revision) = .error e →
      s.setCompactRevision revision = (.error (s.dialect.logError e), s) := fun e ha => by
    rw [setCompactRevision, h.append_watermark_error ha]
    rfl
  rcases Table.append_cases hc ht.unique (.watermark revision) fun _ => rfl with
    ⟨ha, hfull⟩ | ⟨ha, hroom, htaken⟩ | ⟨-, -, -, hlong⟩ | ⟨⟨t', ha⟩, hroom, hfree, -⟩
  · exact .inr ⟨_, herror _ ha, .inr ⟨h.isKeyExists_full, by omega⟩⟩
  · exact .inr ⟨_, herror _ ha, .inl ⟨h.isKeyExists_placeTaken, htaken, hroom⟩⟩
  · simp [StoredRow.fits_watermark] at hlong
  · obtain ⟨s', hs, ht', -⟩ := h.append_ok (fun _ => rfl) ha
    exact .inl ⟨s', _, t', by simp only [setCompactRevision, hs, Except.map], ht', ha, hfree,
      hroom⟩

theorem accepts_iff (h : s.Serves t) (ht : t.Regular) :
    s.accepts revision = true ↔ revision ∉ t.marks ∧ s.HasRoom := by
  rcases h.setCompactRevision_cases ht revision with
    ⟨s', id, t', hset, -, -, hnew, hroom⟩ | ⟨e, hset, ⟨-, hmem, -⟩ | ⟨-, hfull⟩⟩
  · simp [accepts, hset, Except.isOk, Except.toBool, hnew, hroom]
  · simp [accepts, hset, Except.isOk, Except.toBool, hmem]
  · simp [accepts, hset, Except.isOk, Except.toBool, hfull]

/-- A mark is refused when it is to be recorded once more. -/
theorem setCompactRevision_of_mem (h : s.Serves t) (ht : t.Regular) (hmem : revision ∈ t.marks) :
    ∃ e, s.setCompactRevision revision = (.error e, s) ∧
      (s.HasRoom → e.isKeyExists = true) := by
  rcases h.setCompactRevision_cases ht revision with
    ⟨s', id, t', -, -, -, hnew, -⟩ | ⟨e, hset, ⟨he, -⟩ | ⟨-, hfull⟩⟩
  · exact absurd hmem hnew
  · exact ⟨e, hset, fun _ => he⟩
  · exact ⟨e, hset, fun hroom => absurd hroom hfull⟩

/-- What is refused as already there is a mark. -/
theorem mem_marks_of_isKeyExists (h : s.Serves t) (ht : t.Regular) {e : LogError}
    (hset : s.setCompactRevision revision = (.error e, s')) (he : e.isKeyExists = true) :
    revision ∈ t.marks := by
  rcases h.setCompactRevision_cases ht revision with
    ⟨_, _, _, hok, -⟩ | ⟨_, herr, ⟨-, hmem, -⟩ | ⟨hother, -⟩⟩
  · rw [hok] at hset
    cases hset
  · exact hmem
  · rw [herr] at hset
    cases hset
    rw [he] at hother
    cases hother

end Serves

theorem dialect_call {α : Type} (s : Store) (f : Database → Except Fault α × Database) :
    (s.call f).2.dialect = s.dialect := by
  unfold call
  split <;> rfl

/-- Putting a row in leaves the dialect alone. -/
@[simp] theorem dialect_append (s : Store) (row : Int → StoredRow) :
    (s.append row).2.dialect = s.dialect := by
  have henter : (s.enter (row 0) (·.append row)).2.dialect = s.dialect := s.dialect_call _
  unfold append
  split <;> simp_all

/-- What an insertion leaves is what putting its row in leaves. -/
theorem insert_snd (s : Store) (d : Draft) : (s.insert d).2 = (s.append d.row).2 := by
  unfold insert
  split <;> simp [*]

theorem setCompactRevision_snd (s : Store) (revision : Int) :
    (s.setCompactRevision revision).2 = (s.append (.watermark revision)).2 := rfl

theorem IsEmpty.serves {s : Store} (h : s.IsEmpty) :
    ∃ t, s.Serves t ∧ t.rows = [] ∧ t.ids = .counter 0 ∧ t.isUnique = true := by
  obtain ⟨t, ht, hrows, hids, hu⟩ := h.table
  exact ⟨t, ⟨ht, h.free, h.classify⟩, hrows, hids, hu⟩

end Store

end RevisionLog
