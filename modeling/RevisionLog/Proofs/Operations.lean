import RevisionLog.Proofs.Actions
import RevisionLog.Store.Session

/-!
# What operations are answered

An operation is an action or a read, with any arguments; `Store.answer` is what a store answers and
`Store.perform` the store after it. Reads leave the store alone, so a run comes to what its actions
come to (`Store.performAll_eq`), and an operation that fails leaves the store exactly as it was
(`Store.Serves.perform_of_error`): a deletion, a compaction and an installation never fail on a
table that only the log has written, and an insertion changes the store only once its row is in.
-/

namespace RevisionLog

/-- Something that is asked of a store. -/
inductive Operation
  | act (action : Action)
  | get (id : Int)
  | listCurrent (pattern cursor : String) (limit : Int) (withDeleted : Bool)
  | list (pattern cursor : String) (limit revision : Int) (withDeleted : Bool)
  | countCurrent (pattern cursor : String)
  | count (pattern cursor : String) (revision : Int)
  | after (pattern : String) (revision limit : Int)
  | currentRevision
  | compactRevision

/-- The action, if the operation is one. -/
def Operation.action? : Operation → Option Action
  | .act a => some a
  | _ => none

/-- A migration of SQLite's schema that is not empty makes one index, unless it is there. -/
theorem Schema.statement_of_mem_pending {count : Nat} {task : Task}
    (h : task ∈ Schema.sqlite.pending count) :
    task.statement = (Definition.index .byNewest true).sql := by
  have hmem := SchemaBackend.mem_of_mem_pending h
  have hne : task.statement ≠ "" := by
    simp only [Schema.pending, List.mem_map, List.mem_filter, Prod.exists] at h
    obtain ⟨sql, i, ⟨-, hsql⟩, rfl⟩ := h
    simpa using (Bool.and_eq_true_iff.1 hsql).2
  simp only [Schema.sqlite, Definition.migrations, List.map_cons, List.map_nil, List.mem_cons,
    List.not_mem_nil, or_false] at hmem
  rcases hmem with he | he
  · exact absurd he hne
  · exact he

/-- Tasks that each succeed while something holds, and keep it, succeed one after another. -/
theorem SchemaBackend.runTasks_ok {σ : Type} {b : SchemaBackend σ} {P : σ → Prop}
    {tasks : List Task} (hexecute : ∀ task ∈ tasks, ∀ s, P s →
      (b.execute task.statement s).1 = .ok () ∧ P (b.execute task.statement s).2)
    {s : σ} (h : P s) : (runTasks b tasks s).1 = .ok () := by
  induction tasks generalizing s with
  | nil => rfl
  | cons task tasks ih =>
    obtain ⟨hok, hkept⟩ := hexecute task (.head _) s h
    rw [runTasks]
    split
    · rename_i s' he
      rw [he] at hkept
      exact ih (fun task ht => hexecute task (.tail _ ht)) hkept
    · rename_i e s' he
      rw [he] at hok
      cases hok

namespace Store

/-- What a store answers to an operation. -/
def answer (s : Store) : Operation → Except LogError Answer
  | .act (.insert d) => (s.insert d).1.map .revision
  | .act (.setCompactRevision revision) => (s.setCompactRevision revision).1.map fun _ => .done
  | .act (.compact revision) => (s.compact revision).1.map fun sweep => .removed sweep.removed
  | .act (.delete id) => (s.delete id).1.map fun _ => .done
  | .act (.install migration) => (s.install migration).1.map .installed
  | .get id => (s.get id).map .record
  | .listCurrent pattern cursor limit withDeleted =>
    (s.listCurrent pattern cursor limit withDeleted).map .rows
  | .list pattern cursor limit revision withDeleted =>
    (s.list pattern cursor limit revision withDeleted).map .rows
  | .countCurrent pattern cursor =>
    (s.countCurrent pattern cursor).map fun (revision, n) => .counted revision n
  | .count pattern cursor revision =>
    (s.count pattern cursor revision).map fun (current, n) => .counted current n
  | .after pattern revision limit => (s.after pattern revision limit).map .rows
  | .currentRevision => s.currentRevision.map .revision
  | .compactRevision => s.compactRevision.map .revision

/-- The store after an operation. -/
def perform (s : Store) : Operation → Store
  | .act a => s.act a
  | _ => s

/-- What a store answers to operations, one after another. -/
def answers (s : Store) : List Operation → List (Except LogError Answer)
  | [] => []
  | o :: operations => s.answer o :: (s.perform o).answers operations

/-- The store after operations, one after another. -/
def performAll (s : Store) (operations : List Operation) : Store := operations.foldl perform s

@[simp] theorem performAll_cons (s : Store) (o : Operation) (operations : List Operation) :
    s.performAll (o :: operations) = (s.perform o).performAll operations := rfl

theorem perform_eq (s : Store) (o : Operation) : s.perform o = s.actAll o.action?.toList := by
  cases o <;> rfl

/-- A run of operations does what its actions do. -/
theorem performAll_eq (s : Store) (operations : List Operation) :
    s.performAll operations = s.actAll (operations.filterMap Operation.action?) := by
  induction operations generalizing s with
  | nil => rfl
  | cons o operations ih =>
    rw [performAll_cons, ih, perform_eq]
    cases o <;> rfl

/-- After any operations on an empty log the table is regular, with at most an id for each. -/
theorem IsEmpty.performAll {s : Store} (hs : s.IsEmpty) (operations : List Operation) :
    ∃ t last, (s.performAll operations).Serves t ∧ t.Regular ∧ t.ids = .counter last ∧
      last ≤ operations.length := by
  obtain ⟨t, last, ht, hreg, hids, hle⟩ := hs.actAll (operations.filterMap Operation.action?)
  have hlength := List.length_filterMap_le Operation.action? operations
  refine ⟨t, last, ?_, hreg, hids, by omega⟩
  rwa [performAll_eq]

namespace Serves

variable {s : Store} {t : Table}

/-- On a store that has its table, an index that is to be made unless it is there can be made. -/
theorem execute_index (h : s.Serves t) {i : Index} (hi : .index i true ∈ Definition.all) :
    (backend.execute (Definition.index i true).sql s).1 = .ok () := by
  obtain ⟨db, hc, ht⟩ := h.connection
  cases hthere : db.hasIndex i.name with
  | true =>
    have hdo : db.define (.index i true) = .ok none := by simp [Database.define, hthere]
    rw [execute_definition hc h.free hi hdo]
  | false => rw [execute_definition hc h.free hi (Database.define_index ht hthere)]

/-- An installation on a store that has its table finds it, and applies the migrations. -/
theorem install_ok (h : s.Serves t) (migration : Nat) :
    (s.install migration).1 = .ok ⟨false, (Schema.sqlite.pending migration).length⟩ := by
  obtain ⟨db, hc, ht⟩ := h.connection
  have hfound : findTable backend .sqlite s = (true, [], s) := by
    simp [findTable, backend_tableExists, hasTable_of_connection hc, Database.hasTable, ht,
      Schema.sqlite]
  have hrun : (runTasks backend (Schema.sqlite.pending migration) s).1 = .ok () := by
    refine SchemaBackend.runTasks_ok (P := fun s => ∃ t, s.Serves t) (fun task htask s hs => ?_)
      ⟨t, h⟩
    obtain ⟨t, h⟩ := hs
    obtain ⟨t', h', -⟩ := h.execute task.statement
    refine ⟨?_, t', h'⟩
    rw [Schema.statement_of_mem_pending htask]
    exact h.execute_index (by decide)
  rw [Store.install, (SchemaBackend.install_eq backend .sqlite migration s).1, hfound,
    backend_tableExists]
  simp [Schema.plan, hrun, Except.map]

theorem perform (h : s.Serves t) (ht : t.Regular) (o : Operation) :
    ∃ t', (s.perform o).Serves t' ∧ t'.Regular := by
  cases o with
  | act a =>
    obtain ⟨t', ht', he⟩ := h.act_effect ht a
    exact ⟨t', ht', he.regular ht⟩
  | _ => exact ⟨t, h, ht⟩

/-- An operation that fails leaves the store as it was. -/
theorem perform_of_error (h : s.Serves t) (ht : t.Regular) {o : Operation} {e : LogError}
    (hfail : s.answer o = .error e) : s.perform o = s := by
  cases o with
  | act a =>
    cases a with
    | insert d =>
      rcases h.insert_outcome d with ⟨id, s', -, -, hs, -⟩ | ⟨e, he⟩
      · rw [answer, hs] at hfail
        cases hfail
      · rw [Store.perform, act, he]
    | setCompactRevision revision =>
      rcases h.setCompactRevision_cases ht revision with ⟨s', -, -, hset, -⟩ | ⟨e, hset, -⟩
      · rw [answer, hset] at hfail
        cases hfail
      · rw [Store.perform, act, hset]
    | compact revision =>
      obtain ⟨sweep, s', hs, -⟩ := h.compact_target ht.logged revision
      rw [answer, hs] at hfail
      cases hfail
    | delete id =>
      obtain ⟨s', hs, -⟩ := h.update_ok (f := fun t => .ok ((), t.delete id)) rfl
      rw [answer, delete, hs] at hfail
      cases hfail
    | install migration =>
      rw [answer, h.install_ok] at hfail
      cases hfail
  | _ => rfl

end Serves

end Store

end RevisionLog
