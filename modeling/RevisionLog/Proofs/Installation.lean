import RevisionLog.Proofs.Opening
import RevisionLog.Rehearsal
import Mathlib.Data.List.Basic

/-!
# Installations that are repeated

What runs of `install` execute is told by a backend that notes it (`SchemaBackend.noting`): a run
executes the beginning of its plan, and all of it if it succeeds (`SchemaBackend.runTasks_noting`,
`SchemaBackend.install_noting`). Executions may fail at will (`SchemaBackend.failing`).

Whether there is anything to create a run judges by the table alone, and the table is there once the
first statement of the schema is executed (`SchemaBackend.Tells`,
`SchemaBackend.Tells.present_iff`). So a run that succeeds leaves the schema complete if it found no
table, or if no run before it was cut short between the first statement and the last
(`SchemaBackend.install_complete`); on SQLite the log has all its indexes then. An installation that
was cut short is taken for complete ever after (`SchemaBackend.install_leaves_out`): on SQLite two
creations of one key succeed.
-/

namespace RevisionLog

variable {σ : Type} {schema : Schema}

namespace SchemaBackend

/-- A state of a backend, and the statements that were executed on the way to it, the oldest
first. -/
structure Noted (σ : Type) where
  state : σ
  executed : List String := []

/-- The backend, which notes what it has executed. -/
def noting (b : SchemaBackend σ) : SchemaBackend (Noted σ) where
  tableExists schema s :=
    match b.tableExists schema s.state with
    | (r, state) => (r, { s with state })
  execute sql s :=
    match b.execute sql s.state with
    | (.ok (), state) => (.ok (), ⟨state, s.executed ++ [sql]⟩)
    | (.error e, state) => (.error e, { s with state })

/-- The backend on which executions fail at will: the state holds what is to become of the next
ones. -/
def failing (b : SchemaBackend σ) : SchemaBackend (σ × List (Option LogError)) where
  tableExists schema s :=
    match b.tableExists schema s.1 with
    | (r, state) => (r, (state, s.2))
  execute sql s :=
    match s.2.head?.join with
    | some e => (.error e, (s.1, s.2.tail))
    | none =>
      match b.execute sql s.1 with
      | (r, state) => (r, (state, s.2.tail))

/-- The state after runs of `install`, one for each number of migrations, whatever they came to. -/
def installAll (b : SchemaBackend σ) (schema : Schema) (counts : List Nat) (s : σ) : σ :=
  counts.foldl (fun s count => (install b schema count s).2.2) s

/-- The statements that a run of `install` executes, in order. -/
def executedBy (b : SchemaBackend σ) (schema : Schema) (count : Nat) (s : σ) : List String :=
  (install b.noting schema count ⟨s, []⟩).2.2.executed

/-- The statements that runs execute, in order. -/
def executedIn (b : SchemaBackend σ) (schema : Schema) : List Nat → σ → List String
  | [], _ => []
  | count :: counts, s =>
    b.executedBy schema count s ++ b.executedIn schema counts (install b schema count s).2.2

/-- The first statement of the schema has been executed. -/
def Begun (schema : Schema) (executed : List String) : Prop :=
  ∃ sql ∈ executed, schema.statements.head? = some sql

/-- Every statement of the schema has been executed. -/
def Complete (schema : Schema) (executed : List String) : Prop :=
  ∀ sql ∈ schema.statements, sql ∈ executed

/-- Some run is cut short between the first statement of the schema and the last. -/
def CutShort (b : SchemaBackend σ) (schema : Schema) : List Nat → σ → Prop
  | [], _ => False
  | count :: counts, s =>
    (Begun schema (b.executedBy schema count s) ∧ ¬ Complete schema (b.executedBy schema count s)) ∨
      b.CutShort schema counts (install b schema count s).2.2

/-- The first statement of the schema is the one that makes the table: the existence check, where it
answers, tells whether it has been executed. -/
structure Tells (b : SchemaBackend σ) (schema : Schema) (present : σ → Prop) : Prop where
  answer : ∀ s p, (b.tableExists schema s).1 = .ok p → (p = true ↔ present s)
  check : ∀ s, present (b.tableExists schema s).2 ↔ present s
  success : ∀ sql ∈ schema.statements ++ schema.migrations, ∀ s, (b.execute sql s).1 = .ok () →
    (present (b.execute sql s).2 ↔ present s ∨ schema.statements.head? = some sql)
  failure : ∀ sql s e, (b.execute sql s).1 = .error e →
    (present (b.execute sql s).2 ↔ present s)

variable {b : SchemaBackend σ}

/-! ## Runs -/

/-- What every execution of a task keeps, a run keeps. -/
theorem runTasks_keeps {P : σ → Prop} {tasks : List Task}
    (hexecute : ∀ t ∈ tasks, ∀ s, P s → P (b.execute t.statement s).2) {s : σ} (h : P s) :
    P (runTasks b tasks s).2.2 := by
  induction tasks generalizing s with
  | nil => exact h
  | cons t tasks ih =>
    have ht := hexecute t (.head _) s h
    rw [runTasks]
    split
    · rename_i s' he
      rw [he] at ht
      exact ih (fun t ht => hexecute t (.tail _ ht)) ht
    · rename_i e s' he
      rw [he] at ht
      exact ht

theorem mem_of_mem_pending {count : Nat} {t : Task} (ht : t ∈ schema.pending count) :
    t.statement ∈ schema.migrations := by
  simp only [Schema.pending, List.mem_map, List.mem_filter, Prod.exists] at ht
  obtain ⟨sql, i, ⟨hmem, -⟩, rfl⟩ := ht
  exact List.fst_mem_of_mem_zipIdx hmem

/-- A run executes statements and migrations of the schema only. -/
theorem mem_of_mem_plan {present : Bool} {count : Nat} {t : Task}
    (ht : t ∈ schema.plan present count) :
    t.statement ∈ schema.statements ++ schema.migrations := by
  rw [List.mem_append]
  rcases List.mem_append.1 ht with ht | ht
  · cases present with
    | true => simp at ht
    | false =>
      obtain ⟨sql, hsql, rfl⟩ := List.mem_map.1 ht
      exact .inl hsql
  · exact .inr (mem_of_mem_pending ht)

theorem findTable_snd (b : SchemaBackend σ) (schema : Schema) (s : σ) :
    (findTable b schema s).2.2 = (b.tableExists schema s).2 := by
  unfold findTable
  split <;> simp [*]

/-- The run after the existence check. -/
theorem install_eq (b : SchemaBackend σ) (schema : Schema) (count : Nat) (s : σ) :
    (install b schema count s).1 =
        ((runTasks b (schema.plan (findTable b schema s).1 count) (b.tableExists schema s).2).1.map
          fun _ => ⟨!(findTable b schema s).1, (schema.pending count).length⟩) ∧
      (install b schema count s).2.2 =
        (runTasks b (schema.plan (findTable b schema s).1 count)
          (b.tableExists schema s).2).2.2 := by
  rw [← findTable_snd]
  simp only [install]
  split <;> simp [*, Except.map]

/-- What the existence check and every execution keep, runs keep. -/
theorem installAll_keeps {P : σ → Prop} (hcheck : ∀ s, P s → P (b.tableExists schema s).2)
    (hexecute : ∀ sql ∈ schema.statements ++ schema.migrations, ∀ s, P s → P (b.execute sql s).2)
    (counts : List Nat) {s : σ} (h : P s) : P (b.installAll schema counts s) := by
  induction counts generalizing s with
  | nil => exact h
  | cons count counts ih =>
    refine ih ?_
    show P (install b schema count s).2.2
    rw [(install_eq b schema count s).2]
    exact runTasks_keeps (fun t ht => hexecute t.statement (mem_of_mem_plan ht)) (hcheck s h)

/-! ## What is executed -/

/-- Noting changes nothing of a run; what is executed is the beginning of the tasks, all of them if
the run succeeds. -/
theorem runTasks_noting (b : SchemaBackend σ) (tasks : List Task) (s : σ) :
    ∃ done : List Task, done <+: tasks ∧ ((runTasks b tasks s).1 = .ok () → done = tasks) ∧
      ∀ l, runTasks b.noting tasks ⟨s, l⟩ =
        ((runTasks b tasks s).1, (runTasks b tasks s).2.1,
          ⟨(runTasks b tasks s).2.2, l ++ done.map (·.statement)⟩) := by
  induction tasks generalizing s with
  | nil => exact ⟨[], List.nil_prefix, fun _ => rfl, fun l => by simp [runTasks]⟩
  | cons t tasks ih =>
    rcases he : b.execute t.statement s with ⟨e | ⟨⟩, s'⟩
    · refine ⟨[], List.nil_prefix, fun h => ?_, fun l => ?_⟩
      · simp [runTasks, he] at h
      · simp [runTasks, noting, he]
    · obtain ⟨done, hprefix, hok, hrun⟩ := ih s'
      refine ⟨t :: done, (List.prefix_cons_inj t).2 hprefix, fun h => ?_, fun l => ?_⟩
      · simp only [runTasks, he] at h
        rw [hok h]
      · have hstep : b.noting.execute t.statement ⟨s, l⟩ = (.ok (), ⟨s', l ++ [t.statement]⟩) := by
          simp [noting, he]
        simp [runTasks, he, hstep, hrun]

theorem findTable_noting (b : SchemaBackend σ) (schema : Schema) (s : σ) (l : List String) :
    findTable b.noting schema ⟨s, l⟩ =
      ((findTable b schema s).1, (findTable b schema s).2.1,
        ⟨(findTable b schema s).2.2, l⟩) := by
  rcases h : b.tableExists schema s with ⟨e | p, s'⟩ <;> simp [findTable, noting, h]

/-- Noting changes nothing of an installation, and an installation that succeeds has executed its
plan. -/
theorem install_noting (b : SchemaBackend σ) (schema : Schema) (count : Nat) (s : σ) :
    (∀ l, install b.noting schema count ⟨s, l⟩ =
        ((install b schema count s).1, (install b schema count s).2.1,
          ⟨(install b schema count s).2.2, l ++ b.executedBy schema count s⟩)) ∧
      (∀ done, (install b schema count s).1 = .ok done →
        done = ⟨!(findTable b schema s).1, (schema.pending count).length⟩ ∧
          b.executedBy schema count s =
            (schema.plan (findTable b schema s).1 count).map (·.statement)) := by
  obtain ⟨ran, -, hran, hnoting⟩ :=
    runTasks_noting b (schema.plan (findTable b schema s).1 count) (findTable b schema s).2.2
  have hrun : ∀ l, install b.noting schema count ⟨s, l⟩ =
      ((install b schema count s).1, (install b schema count s).2.1,
        ⟨(install b schema count s).2.2, l ++ ran.map (·.statement)⟩) := by
    intro l
    simp only [install, findTable_noting, hnoting]
    split <;> simp [*]
  have hexecuted : b.executedBy schema count s = ran.map (·.statement) := by
    simp [executedBy, hrun]
  refine ⟨fun l => by rw [hrun, hexecuted], fun done hdone => ?_⟩
  rw [(install_eq b schema count s).1, ← findTable_snd] at hdone
  cases hr : (runTasks b (schema.plan (findTable b schema s).1 count) (findTable b schema s).2.2).1
    with
  | error e => rw [hr] at hdone; cases hdone
  | ok =>
    rw [hr] at hdone
    cases hdone
    exact ⟨rfl, by rw [hexecuted, hran hr]⟩

/-- Noting changes nothing of any number of installations. -/
theorem installAll_noting (b : SchemaBackend σ) (schema : Schema) (counts : List Nat) (s : σ)
    (l : List String) :
    b.noting.installAll schema counts ⟨s, l⟩ =
      ⟨b.installAll schema counts s, l ++ b.executedIn schema counts s⟩ := by
  induction counts generalizing s l with
  | nil => simp [installAll, executedIn]
  | cons count counts ih =>
    simp only [installAll, List.foldl_cons, (install_noting b schema count s).1] at ih ⊢
    rw [ih, executedIn, List.append_assoc]

theorem executedIn_append (b : SchemaBackend σ) (schema : Schema) (counts counts' : List Nat)
    (s : σ) :
    b.executedIn schema (counts ++ counts') s =
      b.executedIn schema counts s ++
        b.executedIn schema counts' (b.installAll schema counts s) := by
  induction counts generalizing s with
  | nil => rfl
  | cons count counts ih =>
    rw [List.cons_append, executedIn, ih, executedIn, List.append_assoc]
    rfl

/-! ## Complete schemas -/

@[simp] theorem begun_append {xs ys : List String} :
    Begun schema (xs ++ ys) ↔ Begun schema xs ∨ Begun schema ys := by
  simp only [Begun, List.mem_append, or_and_right, exists_or]

theorem begun_singleton {sql : String} :
    Begun schema [sql] ↔ schema.statements.head? = some sql := by
  simp [Begun]

/-- Runs that have executed the first statement have executed them all, unless one was cut short. -/
theorem complete_of_begun {counts : List Nat} {s : σ}
    (hbegun : Begun schema (b.executedIn schema counts s)) (hcut : ¬ b.CutShort schema counts s) :
    Complete schema (b.executedIn schema counts s) := by
  induction counts generalizing s with
  | nil =>
    obtain ⟨sql, hmem, -⟩ := hbegun
    cases hmem
  | cons count counts ih =>
    simp only [CutShort, not_or, not_and, not_not] at hcut
    intro sql hsql
    rw [executedIn, List.mem_append]
    rcases begun_append.1 hbegun with hnow | hlater
    · exact .inl (hcut.1 hnow sql hsql)
    · exact .inr (ih hlater hcut.2 sql hsql)

/-- An execution that succeeds is noted, one that fails is not. -/
theorem noting_execute (b : SchemaBackend σ) (sql : String) (s : Noted σ) :
    (∃ s', b.execute sql s.state = (.ok (), s') ∧
        b.noting.execute sql s = (.ok (), ⟨s', s.executed ++ [sql]⟩)) ∨
      ∃ e s', b.execute sql s.state = (.error e, s') ∧
        b.noting.execute sql s = (.error e, ⟨s', s.executed⟩) := by
  rcases h : b.execute sql s.state with ⟨e | ⟨⟩, s'⟩
  · exact .inr ⟨e, s', rfl, by simp [noting, h]⟩
  · exact .inl ⟨s', rfl, by simp [noting, h]⟩

/-- The table is there as soon as the first statement has been executed, and not before. -/
theorem Tells.present_iff {present : σ → Prop} (hb : b.Tells schema present) {s : σ}
    (hs : ¬ present s) (counts : List Nat) :
    present (b.installAll schema counts s) ↔ Begun schema (b.executedIn schema counts s) := by
  have hcheck : ∀ s : Noted σ, (present s.state ↔ Begun schema s.executed) →
      (present (b.noting.tableExists schema s).2.state ↔
        Begun schema (b.noting.tableExists schema s).2.executed) :=
    fun s h => (hb.check s.state).trans h
  have hexecute : ∀ sql ∈ schema.statements ++ schema.migrations, ∀ s : Noted σ,
      (present s.state ↔ Begun schema s.executed) →
        (present (b.noting.execute sql s).2.state ↔
          Begun schema (b.noting.execute sql s).2.executed) := by
    intro sql hsql s h
    rcases noting_execute b sql s with ⟨s', hr, hn⟩ | ⟨e, s', hr, hn⟩
    · have := hb.success sql hsql s.state (by rw [hr])
      rw [hr] at this
      rw [hn, begun_append, begun_singleton, ← h]
      exact this
    · have := hb.failure sql s.state e (by rw [hr])
      rw [hr] at this
      rw [hn]
      exact this.trans h
  have h := installAll_keeps hcheck hexecute counts (s := ⟨s, []⟩) (by simp [hs, Begun])
  simpa [installAll_noting] using h

/-- What a statement brings about, and nothing undoes, is so once the statement has been
executed. -/
theorem lasts_of_executed {P : σ → Prop} {sql : String}
    (hcheck : ∀ s, P s → P (b.tableExists schema s).2)
    (hexecute : ∀ sql s, P s → P (b.execute sql s).2)
    (hmakes : ∀ s, (b.execute sql s).1 = .ok () → P (b.execute sql s).2) {s : σ}
    {counts : List Nat} (h : sql ∈ b.executedIn schema counts s) :
    P (b.installAll schema counts s) := by
  have hnoted : ∀ sql' ∈ schema.statements ++ schema.migrations, ∀ s : Noted σ,
      (sql ∈ s.executed → P s.state) →
        sql ∈ (b.noting.execute sql' s).2.executed → P (b.noting.execute sql' s).2.state := by
    intro sql' _ s ih
    have hkept := hexecute sql' s.state
    rcases noting_execute b sql' s with ⟨s', hr, hn⟩ | ⟨e, s', hr, hn⟩
    · rw [hr] at hkept
      rw [hn, List.mem_append, List.mem_singleton]
      rintro (hmem | rfl)
      · exact hkept (ih hmem)
      · have := hmakes s.state (by rw [hr])
        rwa [hr] at this
    · rw [hr] at hkept
      rw [hn]
      exact fun hmem => hkept (ih hmem)
  have := installAll_keeps (b := b.noting) (fun s ih hmem => hcheck s.state (ih hmem)) hnoted counts
    (s := ⟨s, []⟩) (by simp)
  rw [installAll_noting] at this
  exact this h

/-- A run that succeeds leaves the schema complete if it found no table, or if what it did not do
has been done before; and so it has, unless a run was cut short. -/
theorem complete_of_ok {present : σ → Prop} (hb : b.Tells schema present) {s : σ}
    (hs : ¬ present s) {earlier : List Nat} {count : Nat} {done : Installed}
    (hok : (install b schema count (b.installAll schema earlier s)).1 = .ok done) :
    (Complete schema (b.executedIn schema (earlier ++ [count]) s) ↔
        done.created = true ∨ ∀ sql ∈ schema.statements, sql ∈ b.executedIn schema earlier s ∨
          sql ∈ (schema.pending count).map (·.statement)) ∧
      (¬ b.CutShort schema earlier s →
        Complete schema (b.executedIn schema (earlier ++ [count]) s)) := by
  set s' := b.installAll schema earlier s with hs'
  obtain ⟨rfl, hran⟩ := (install_noting b schema count s').2 done hok
  have hafter : b.executedIn schema (earlier ++ [count]) s =
      b.executedIn schema earlier s ++
        (schema.plan (findTable b schema s').1 count).map (·.statement) := by
    simp [executedIn_append, executedIn, ← hs', hran]
  rw [hafter]
  cases hfound : (findTable b schema s').1 with
  | false =>
    have hcomplete : Complete schema (b.executedIn schema earlier s ++
        (schema.plan false count).map (·.statement)) := by
      intro sql hsql
      simp [Schema.plan, Schema.creation, hsql]
    exact ⟨iff_of_true hcomplete (.inl rfl), fun _ => hcomplete⟩
  | true =>
    have hpresent : present s' := by
      unfold findTable at hfound
      split at hfound
      · rename_i p s'' hp
        exact (hb.answer s' p (by rw [hp])).1 hfound
      · cases hfound
    refine ⟨by simp [Complete, Schema.plan], fun hcut sql hsql => ?_⟩
    have hbegun := (hb.present_iff hs earlier).1 hpresent
    exact List.mem_append_left _ (complete_of_begun hbegun hcut sql hsql)

theorem failing_execute (b : SchemaBackend σ) (sql : String) (s : σ × List (Option LogError)) :
    (∃ e, b.failing.execute sql s = (.error e, s.1, s.2.tail)) ∨
      b.failing.execute sql s =
        ((b.execute sql s.1).1, (b.execute sql s.1).2, s.2.tail) := by
  cases hfate : s.2.head?.join with
  | some e => exact .inl ⟨e, by simp [SchemaBackend.failing, hfate]⟩
  | none => exact .inr (by simp [SchemaBackend.failing, hfate])

/-- A backend on which executions fail at will has its table when the backend has. -/
theorem Tells.failing {present : σ → Prop} (hb : b.Tells schema present) :
    b.failing.Tells schema (present ·.1) where
  answer s p hp := hb.answer s.1 p hp
  check s := hb.check s.1
  success sql hsql s hok := by
    rcases failing_execute b sql s with ⟨e, hr⟩ | hr
    · rw [hr] at hok
      cases hok
    · rw [hr] at hok ⊢
      exact hb.success sql hsql s.1 hok
  failure sql s e he := by
    rcases failing_execute b sql s with ⟨e', hr⟩ | hr
    · rw [hr]
    · rw [hr] at he ⊢
      exact hb.failure sql s.1 e he

end SchemaBackend

/-! ## The schema for SQLite -/

namespace Database

variable {db : Database} {d : Definition} {o : Option Database} {sql : String}

/-- A definition adds indexes, its own among them, and takes none away; that of the table makes the
table. -/
theorem define_ok (h : db.define d = .ok o) :
    db.indexes ⊆ (o.getD db).indexes ∧ (∀ i, d = .index i false → i ∈ (o.getD db).indexes) ∧
      ((o.getD db).hasTable tableName = true ↔ db.hasTable tableName = true ∨ d = .table) := by
  cases d with
  | table =>
    simp only [define] at h
    split at h
    · cases h
    · split at h
      · cases h
      · rename_i hnone
        cases h
        have hindexes : db.indexes = [] := by simp_all [indexes]
        refine ⟨by simp [hindexes], fun i hi => (by cases hi), ?_⟩
        simp [hasTable, withTable]
  | index j ifMissing =>
    simp only [define] at h
    split at h
    · split at h
      · rename_i hif
        cases h
        exact ⟨fun i hi => hi, fun i hi => by simp_all, by simp⟩
      · cases h
    · split at h
      · cases h
      · rename_i t ht
        cases h
        have hindexes : db.indexes = t.indexes := by simp [indexes, ht]
        refine ⟨?_, fun i hi => ?_, by simp [hasTable, ht]⟩
        · rw [hindexes]
          exact List.subset_append_left _ _
        · cases hi
          exact List.mem_append_right _ (.head _)

/-- A text that can be executed is that of a definition. -/
theorem execute_ok (h : db.execute sql = .ok o) :
    ∃ d ∈ Definition.all, d.sql = sql ∧ db.define d = .ok o := by
  unfold execute at h
  split at h
  · rename_i d hd
    exact ⟨d, List.mem_of_find?_eq_some hd, by simpa using List.find?_some hd, h⟩
  · cases h

end Database

/-- Definitions with the same text are the same. -/
theorem Definition.sql_inj {d d' : Definition} (hd : d ∈ Definition.all)
    (hd' : d' ∈ Definition.all) (h : d.sql = d'.sql) : d = d' := by
  have := find?_sql d hd
  rw [h, find?_sql d' hd'] at this
  exact (Option.some.inj this).symm

namespace Store

open SchemaBackend

variable {s : Store}

/-- The index is there. -/
def HasIndex (s : Store) (i : Index) : Prop := ∃ t, s.table? = some t ∧ i ∈ t.indexes

theorem hasIndex_iff {i : Index} {db : Database} (hc : s.connection = .ok db) :
    s.HasIndex i ↔ i ∈ db.indexes := by
  have ht : s.table? = db.table := by simp [table?, hc, Except.toOption]
  cases h : db.table <;> simp [HasIndex, ht, h, Database.indexes]

/-- An execution changes the database as the definition with its text does, or nothing. -/
theorem backend_execute (s : Store) (sql : String) :
    (∃ db o, s.connection = .ok db ∧ db.execute sql = .ok o ∧
        backend.execute sql s = (.ok (), { s with connection := .ok (o.getD db) })) ∨
      ∃ e, backend.execute sql s = (.error e, s) := by
  obtain ⟨dialect, connection, blocked, lastId⟩ := s
  cases connection with
  | error e => exact .inr ⟨dialect.logError e, rfl⟩
  | ok db =>
    cases ho : db.execute sql with
    | error e => exact .inr ⟨dialect.logError e, by simp [backend, alter, call, ho]⟩
    | ok o =>
      cases o with
      | none => exact .inl ⟨db, none, rfl, ho, by simp [backend, alter, call, ho]⟩
      | some changed =>
        cases blocked with
        | none =>
          exact .inl ⟨db, some changed, rfl, ho, by simp [backend, alter, call, ho, guarded]⟩
        | some e =>
          exact .inr ⟨dialect.logError e, by simp [backend, alter, call, ho, guarded]⟩

theorem hasTable_of_connection {name : String} {db : Database} (hc : s.connection = .ok db) :
    s.hasTable name = .ok (db.hasTable name) := by
  simp [hasTable, call, hc]

/-- The existence check changes nothing. -/
theorem backend_tableExists (s : Store) (schema : Schema) :
    backend.tableExists schema s = (s.hasTable schema.tableName, s) := by
  obtain ⟨dialect, connection, blocked, lastId⟩ := s
  cases connection <;> simp [backend, hasTable, call]

/-- On SQLite the first statement makes the table. -/
theorem backend_tells : backend.Tells .sqlite fun s => s.hasTable tableName = .ok true where
  answer s p hp := by
    rw [backend_tableExists] at hp
    simp only [Schema.sqlite] at hp
    simp [hp]
  check s := by rw [backend_tableExists]
  success sql _ s hok := by
    rcases backend_execute s sql with ⟨db, o, hc, ho, hrun⟩ | ⟨e, hrun⟩
    · obtain ⟨d, hd, rfl, hdo⟩ := Database.execute_ok ho
      have hfirst : Schema.sqlite.statements.head? = some d.sql ↔ d = .table := by
        refine ⟨fun h => ?_, fun h => by rw [h]; rfl⟩
        exact Definition.sql_inj hd (by decide) (Option.some.inj h).symm
      rw [hrun, hfirst, hasTable_of_connection rfl, hasTable_of_connection hc]
      simpa using (Database.define_ok hdo).2.2
    · rw [hrun] at hok
      cases hok
  failure sql s e he := by
    rcases backend_execute s sql with ⟨db, o, -, -, hrun⟩ | ⟨e', hrun⟩
    · rw [hrun] at he
      cases he
    · rw [hrun]

/-- An execution takes no index away. -/
theorem HasIndex.execute {i : Index} (h : s.HasIndex i) (sql : String) :
    (backend.execute sql s).2.HasIndex i := by
  rcases backend_execute s sql with ⟨db, o, hc, ho, hrun⟩ | ⟨e, hrun⟩
  · obtain ⟨d, -, -, hdo⟩ := Database.execute_ok ho
    rw [hrun, hasIndex_iff rfl]
    exact (Database.define_ok hdo).1 ((hasIndex_iff hc).1 h)
  · rwa [hrun]

/-- Executing the definition of an index makes the index. -/
theorem hasIndex_execute {i : Index} (hi : .index i false ∈ Definition.all)
    (hok : (backend.execute (Definition.index i false).sql s).1 = .ok ()) :
    (backend.execute (Definition.index i false).sql s).2.HasIndex i := by
  rcases backend_execute s (Definition.index i false).sql with ⟨db, o, hc, ho, hrun⟩ | ⟨e, hrun⟩
  · obtain ⟨d, hd, hsql, hdo⟩ := Database.execute_ok ho
    obtain rfl := Definition.sql_inj hd hi hsql
    rw [hrun, hasIndex_iff rfl]
    exact (Database.define_ok hdo).2.1 i rfl
  · rw [hrun] at hok
    cases hok

/-- The indexes whose definitions have been executed are there, however many executions fail. -/
theorem hasIndex_of_executed {s : Store} {fates : List (Option LogError)} {counts : List Nat}
    {i : Index} (hi : .index i false ∈ Definition.all)
    (h : (Definition.index i false).sql ∈ backend.failing.executedIn .sqlite counts (s, fates)) :
    (backend.failing.installAll .sqlite counts (s, fates)).1.HasIndex i := by
  refine lasts_of_executed (P := (·.1.HasIndex i)) (fun s hs => ?_) (fun sql s hs => ?_)
    (fun s hok => ?_) h
  · show (backend.tableExists .sqlite s.1).2.HasIndex i
    rwa [backend_tableExists]
  · rcases failing_execute backend sql s with ⟨e, hr⟩ | hr
    · rwa [hr]
    · rw [hr]
      exact hs.execute sql
  · rcases failing_execute backend (Definition.index i false).sql s with ⟨e, hr⟩ | hr
    · rw [hr] at hok
      cases hok
    · rw [hr] at hok ⊢
      exact hasIndex_execute hi hok

/-- On SQLite the table of an installation that succeeds has all its indexes, if the installation
found no table, or if none before it was cut short. -/
theorem hasIndex_of_ok {s : Store} {fates : List (Option LogError)} {earlier : List Nat}
    {count : Nat} {done : Installed} (hs : s.hasTable tableName = .ok false)
    (hok : (RevisionLog.install backend.failing .sqlite count
      (backend.failing.installAll .sqlite earlier (s, fates))).1 = .ok done)
    (hrun : done.created = true ∨ ¬ backend.failing.CutShort .sqlite earlier (s, fates)) {i : Index}
    (hi : .index i false ∈ Definition.creation) :
    (backend.failing.installAll .sqlite (earlier ++ [count]) (s, fates)).1.HasIndex i := by
  obtain ⟨hiff, hcut⟩ := complete_of_ok backend_tells.failing (s := (s, fates)) (by simp [hs]) hok
  have hcomplete := hrun.elim (fun hcreated => hiff.2 (.inl hcreated)) hcut
  exact hasIndex_of_executed (List.mem_append_left _ hi)
    (hcomplete _ (List.mem_map_of_mem hi))

end Store

/-! ## Repeated installations -/

namespace SchemaBackend

/-- On a backend without the table a run that succeeds leaves the schema complete if it found no
table. If it found the table, it leaves the schema as complete as the runs before it did, which is
complete unless one of them was cut short. On SQLite all indexes of the table are there then, the
one that gives each place to one row among them. Executions may have failed at will. -/
theorem install_complete (earlier : List Nat) (count : Nat) (done : Installed) :
    (∀ {σ : Type} {b : SchemaBackend σ} {schema : Schema} {present : σ → Prop} {s : σ},
      b.Tells schema present → ¬ present s →
        (install b schema count (b.installAll schema earlier s)).1 = .ok done →
          (Complete schema (b.executedIn schema (earlier ++ [count]) s) ↔
              done.created = true ∨ ∀ sql ∈ schema.statements,
                sql ∈ b.executedIn schema earlier s ∨
                  sql ∈ (schema.pending count).map (·.statement)) ∧
            (¬ b.CutShort schema earlier s →
              Complete schema (b.executedIn schema (earlier ++ [count]) s))) ∧
      ∀ {s : Store} {fates : List (Option LogError)}, s.hasTable tableName = .ok false →
        (install Store.backend.failing .sqlite count
          (Store.backend.failing.installAll .sqlite earlier (s, fates))).1 = .ok done →
          done.created = true ∨ ¬ Store.backend.failing.CutShort .sqlite earlier (s, fates) →
            ∀ i, .index i false ∈ Definition.creation →
              (Store.backend.failing.installAll .sqlite (earlier ++ [count])
                (s, fates)).1.HasIndex i :=
  ⟨fun hb hs hok => complete_of_ok hb hs hok,
    fun hs hok hrun _ hi => Store.hasIndex_of_ok hs hok hrun hi⟩

instance (executed : List String) : Decidable (Begun schema executed) :=
  inferInstanceAs (Decidable (∃ sql ∈ executed, schema.statements.head? = some sql))

instance (executed : List String) : Decidable (Complete schema executed) :=
  inferInstanceAs (Decidable (∀ sql ∈ schema.statements, sql ∈ executed))

instance decidableCutShort (b : SchemaBackend σ) (schema : Schema) :
    ∀ counts s, Decidable (b.CutShort schema counts s)
  | [], _ => inferInstanceAs (Decidable False)
  | count :: counts, s =>
    have := decidableCutShort b schema counts (install b schema count s).2.2
    inferInstanceAs (Decidable ((_ ∧ ¬ _) ∨ _))

/-- A rehearsal tells whether the table is there if no other statement makes one. -/
theorem tells_rehearsal (error : LogError) (failing : List String)
    (h : ∀ sql ∈ schema.statements ++ schema.migrations,
      sql.startsWith "CREATE TABLE" = true ↔ schema.statements.head? = some sql) :
    (Rehearsal.backend error failing).Tells schema (·.present = some true) where
  answer r p hp := by
    simp only [Rehearsal.backend] at hp
    split at hp <;> simp_all
  check r := by
    simp only [Rehearsal.backend]
    split <;> rfl
  success sql hsql r hok := by
    simp only [Rehearsal.backend] at hok ⊢
    split at hok
    · cases hok
    · rename_i hfails
      rw [← h sql hsql, if_neg hfails]
      by_cases hmakes : sql.startsWith "CREATE TABLE" = true <;> simp [Rehearsal.note, hmakes]
  failure sql r e he := by
    simp only [Rehearsal.backend] at he ⊢
    split at he
    · rename_i hfails
      rw [if_pos hfails]
    · cases he

/-- A table, its index, and a delta behind an empty one. -/
def tiny : Schema where
  existsSql := "SELECT 1 FROM sqlite_master WHERE name = ?1"
  tableName := "t"
  statements := ["CREATE TABLE t (c)", "CREATE INDEX t_c ON t (c)"]
  migrations := ["", "ALTER TABLE t ADD d"]

theorem tiny_tells (failing : List String) :
    (Rehearsal.backend (.backend "42" ⟨"boom", []⟩) failing).Tells tiny (·.present = some true) :=
  tells_rehearsal _ failing (by decide +kernel)

/-- The delta failed, and the next run leaves it out: the schema is complete. On SQLite the table
could not be made at first. -/
theorem install_complete_deltaFailed :
    Complete tiny ((Rehearsal.backend (.backend "42" ⟨"boom", []⟩)
        ["ALTER TABLE t ADD d"]).executedIn tiny [2, 0] ⟨some false, []⟩) ∧
      (Store.backend.failing.installAll .sqlite [0, 0]
        (({ dialect := .sqlite, connection := .ok {} } : Store),
          [some (.backend "13" ⟨"disk full", []⟩)])).1.HasIndex .byPlace := by
  constructor
  · have hok : (install (Rehearsal.backend (.backend "42" ⟨"boom", []⟩) ["ALTER TABLE t ADD d"])
        tiny 0 ((Rehearsal.backend (.backend "42" ⟨"boom", []⟩)
          ["ALTER TABLE t ADD d"]).installAll tiny [2] ⟨some false, []⟩)).1 = .ok ⟨false, 0⟩ := by
      decide +kernel
    exact ((install_complete [2] 0 ⟨false, 0⟩).1 (tiny_tells _) (by decide) hok).2
      (by decide +kernel)
  · have hok : (install Store.backend.failing .sqlite 0 (Store.backend.failing.installAll .sqlite [0]
        (({ dialect := .sqlite, connection := .ok {} } : Store),
          [some (.backend "13" ⟨"disk full", []⟩)]))).1 = .ok ⟨true, 0⟩ := by
      decide +kernel
    exact (install_complete [0] 0 ⟨true, 0⟩).2 (by decide +kernel) hok (.inl rfl) .byPlace
      (by decide)

/-- An installation that was cut short at the index is taken for complete by the next run, which
never executes the index. So it is on SQLite when the name of an index is taken: the store opens,
and two creations of one key succeed. -/
theorem install_leaves_out :
    (let b := Rehearsal.backend (.backend "42" ⟨"boom", []⟩) ["CREATE INDEX t_c ON t (c)"]
     let s : Rehearsal := ⟨some false, []⟩
     b.Tells tiny (·.present = some true) ∧
      (install b tiny 0 s).1 =
        .error (.setup "CREATE INDEX t_c ON t (c)" (.backend "42" ⟨"boom", []⟩)) ∧
      (install b tiny 0 (b.installAll tiny [0] s)).1 = .ok ⟨false, 0⟩ ∧
      b.executedIn tiny [0, 0] s = ["CREATE TABLE t (c)"] ∧
      ¬ Complete tiny (b.executedIn tiny [0, 0] s)) ∧
    (let db : Database :=
       { otherTables := ["other"], otherIndexes := [Index.byPrevRevision.name] }
     let first := Store.open .sqlite ⟨db, none⟩ 0
     let second := first.2.2.install 0
     let created := second.2.2.insert (.create "key" [1])
     first.1.toBool = false ∧ second.1 = .ok ⟨false, 0⟩ ∧
      second.2.2.table?.map (·.indexes) = some [.byName, .byNameId, .byIdDeleted] ∧
      created.1 = .ok 1 ∧ (created.2.insert (.create "key" [2])).1 = .ok 2) := by
  refine ⟨⟨tiny_tells _, ?_, ?_, ?_, ?_⟩, ?_⟩ <;> decide +kernel

end SchemaBackend

end RevisionLog
