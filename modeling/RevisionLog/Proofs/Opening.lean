import RevisionLog.Proofs.StoreSpec

/-!
# Opening a store on a new database

Executing the text of a definition makes what the definition says (`Database.execute_sql`), so the
statements of an installation are the definitions they were written from (`runTasks_definitions`).
On a new database they make an empty table with its indexes, whatever migrations are asked for:
`Store.isEmpty_open`. A run on a store in memory is evaluated from what the opening makes
(`Store.inMemory_eq`).
-/

namespace RevisionLog

/-- The database after definitions, one after another. -/
def Database.defineAll (db : Database) : List Definition → Except Fault Database
  | [] => .ok db
  | d :: ds => do defineAll ((← db.define d).getD db) ds

namespace Database

variable {db db' : Database} {d : Definition} {t : Table}

theorem defineAll_cons {ds : List Definition} (h : db.define d = .ok (some db')) :
    db.defineAll (d :: ds) = db'.defineAll ds := by
  simp [defineAll, h, bind, Except.bind]

/-- An index whose name is free is put behind the others. -/
theorem define_index {i : Index} {ifMissing : Bool} (ht : db.table = some t)
    (hfree : db.hasIndex i.name = false) :
    db.define (.index i ifMissing) =
      .ok (some { db with table := some (t.withIndexes (t.indexes ++ [i])) }) := by
  simp [define, hfree, ht]

theorem defineAll_append (ds es : List Definition) (h : db.defineAll ds = .ok db') :
    db.defineAll (ds ++ es) = db'.defineAll es := by
  induction ds generalizing db with
  | nil =>
    cases h
    rfl
  | cons d ds ih =>
    rw [defineAll] at h
    rw [List.cons_append, defineAll]
    cases ho : db.define d with
    | error e => rw [ho] at h; cases h
    | ok o => rw [ho] at h; exact ih h

/-- A database with an empty table and all its indexes. -/
def fresh : Database :=
  ({} : Database).withTable [.byName, .byNameId, .byIdDeleted, .byPrevRevision, .byPlace, .byNewest]
    true

theorem defineAll_creation : ({} : Database).defineAll Definition.creation = .ok fresh := by
  have htable : ({} : Database).define .table = .ok (some (({} : Database).withTable [] true)) := rfl
  rw [Definition.creation, defineAll_cons htable,
    defineAll_cons (define_index rfl (by decide +kernel)),
    defineAll_cons (define_index rfl (by decide +kernel)),
    defineAll_cons (define_index rfl (by decide +kernel)),
    defineAll_cons (define_index rfl (by decide +kernel)),
    defineAll_cons (define_index rfl (by decide +kernel)),
    defineAll_cons (define_index rfl (by decide +kernel))]
  rfl

end Database

theorem find?_sql : ∀ d ∈ Definition.all, Definition.all.find? (·.sql == d.sql) = some d := by
  decide +kernel

/-- The text of a definition does what the definition says. -/
theorem Database.execute_sql (db : Database) {d : Definition} (hd : d ∈ Definition.all) :
    db.execute d.sql = db.define d := by
  simp [execute, find?_sql d hd]

namespace Store

variable {s : Store} {db db' : Database}

/-- Executing a definition's text on a store that can be written to. -/
theorem execute_definition (hc : s.connection = .ok db) (hb : s.blocked = none)
    {d : Definition} (hd : d ∈ Definition.all) {o : Option Database} (ho : db.define d = .ok o) :
    Store.backend.execute d.sql s = (.ok (), { s with connection := .ok (o.getD db) }) := by
  simp only [backend, alter, call, hc, db.execute_sql hd, ho, guarded, hb]
  cases o <;> simp

/-- Tasks with the texts of definitions, on a store that can be written to. -/
theorem runTasks_definitions {ds : List Definition} (hds : ∀ d ∈ ds, d ∈ Definition.all)
    {tasks : List Task} (htasks : tasks.map (·.statement) = ds.map (·.sql))
    (hc : s.connection = .ok db) (hb : s.blocked = none) (hdb : db.defineAll ds = .ok db') :
    ∃ events, runTasks backend tasks s =
      (.ok (), events, { s with connection := .ok db' }) := by
  induction ds generalizing tasks s db with
  | nil =>
    obtain rfl : tasks = [] := by simpa using htasks
    cases hdb
    exact ⟨[], by rw [runTasks, ← hc]⟩
  | cons d ds ih =>
    obtain ⟨task, tasks, rfl⟩ : ∃ task rest, tasks = task :: rest := by
      cases tasks with
      | nil => simp at htasks
      | cons task rest => exact ⟨task, rest, rfl⟩
    simp only [List.map_cons, List.cons.injEq] at htasks
    obtain ⟨htask, htasks⟩ := htasks
    rw [Database.defineAll] at hdb
    cases ho : db.define d with
    | error e => rw [ho] at hdb; cases hdb
    | ok o =>
      rw [ho] at hdb
      obtain ⟨events, hrun⟩ := ih (fun d hd => hds d (.tail _ hd)) htasks
        (s := { s with connection := .ok (o.getD db) }) rfl hb hdb
      refine ⟨.executing task :: events, ?_⟩
      simp only [runTasks, htask, execute_definition hc hb (hds d (.head _)) ho, hrun]

/-- The definitions that an installation on a new database makes. -/
def planned (migration : Nat) : List Definition :=
  Definition.creation ++ if 1 < migration then [.index .byNewest true] else []

theorem planned_mem (migration : Nat) : ∀ d ∈ planned migration, d ∈ Definition.all := by
  by_cases h : 1 < migration
  · simp only [planned, if_pos h]
    decide
  · simp only [planned, if_neg h]
    decide

theorem plan_statements (migration : Nat) :
    (Schema.sqlite.plan false migration).map (·.statement) = (planned migration).map (·.sql) := by
  have hsql : ((Definition.index .byNewest true).sql != "") = true := by simp [Definition.sql]
  by_cases h : 1 < migration <;>
    simp [Schema.plan, Schema.creation, Schema.pending, Schema.sqlite, planned,
      Definition.migrations, List.zipIdx, List.filter, h, hsql, Function.comp_def]

/-- An installation on a new database makes an empty table with its indexes, whatever migrations are
asked for. -/
theorem defineAll_planned (migration : Nat) :
    ({} : Database).defineAll (planned migration) = .ok .fresh := by
  have hthere : Database.fresh.hasIndex Index.byNewest.name = true := by
    simp [Database.hasIndex, Database.indexes, Database.fresh, Database.withTable, Table.counting,
      sameName]
  rw [planned, Database.defineAll_append _ _ Database.defineAll_creation]
  split
  · simp [Database.defineAll, Database.define, hthere, bind, Except.bind]
  · rfl

/-- A store opened on a new database works on such a table. -/
theorem open_new (dialect : Dialect Fault) (migration : Nat) :
    (Store.open dialect ⟨{}, none⟩ migration).2.2 = { dialect, connection := .ok .fresh } := by
  obtain ⟨events, hrun⟩ := runTasks_definitions (planned_mem migration) (plan_statements migration)
    (s := { dialect, connection := .ok {} }) rfl rfl (defineAll_planned migration)
  have hfind : findTable backend .sqlite { dialect, connection := .ok {} } =
      (false, [], ({ dialect, connection := .ok {} } : Store)) := rfl
  simp only [Store.open, Store.install, RevisionLog.install, hfind, hrun]

/-- A store opened on a new database is on an empty log. -/
theorem isEmpty_open {dialect : Dialect Fault} (hd : dialect.classify = Fault.classify)
    (migration : Nat) : (Store.open dialect ⟨{}, none⟩ migration).2.2.IsEmpty := by
  rw [open_new]
  exact ⟨⟨_, rfl, rfl, rfl, rfl⟩, rfl, hd⟩

/-- The store in memory as it is opened, without the opening. -/
theorem inMemory_eq : inMemory = { dialect := .sqlite, connection := .ok .fresh } := by
  rw [inMemory]
  exact open_new .sqlite 0

theorem isEmpty_inMemory : inMemory.IsEmpty := by
  rw [inMemory_eq]
  exact ⟨⟨_, rfl, rfl, rfl, rfl⟩, rfl, rfl⟩

end Store

end RevisionLog
