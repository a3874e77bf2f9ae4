import RevisionLog.Proofs.Installation

/-!
# What an installation asks of its backend

A backend can note every call that is made of it, with its answer (`SchemaBackend.heard`). So a run
of `install` is told whole: it looks for the table once, then executes the statements it owes
(`Schema.owed`) up to the first that fails, and nothing behind that. What it answers is told by the
same calls (`SchemaBackend.Ran`), and holds at every backend: `SchemaBackend.install_trace`.

That the table could not be looked for is no failure of the run. It goes on as if the table were
absent, whatever the error was.
-/

namespace RevisionLog

variable {σ : Type} {schema : Schema}

namespace Schema

/-- The migrations below `count` that are not empty. -/
def deltas (schema : Schema) (count : Nat) : List String :=
  (schema.migrations.take count).filter (· ≠ "")

/-- What a run is to execute; `present` tells that the table was found. -/
def owed (schema : Schema) (present : Bool) (count : Nat) : List String :=
  (if present then [] else schema.statements) ++ schema.deltas count

/-- Counted from `k` on, the numbered migrations below `count` are the first `count - k`. -/
theorem zipIdx_below (count k : Nat) (ms : List String) :
    ((ms.zipIdx k).filter fun (sql, i) => i < count && sql != "").map (·.1) =
      (ms.take (count - k)).filter (· ≠ "") := by
  induction ms generalizing k with
  | nil => simp
  | cons sql ms ih =>
    rw [List.zipIdx_cons, List.filter_cons]
    by_cases hk : k < count
    · obtain ⟨n, hn⟩ : ∃ n, count - k = n + 1 := ⟨count - k - 1, by omega⟩
      have hrest : count - (k + 1) = n := by omega
      rw [hn, List.take_succ_cons, List.filter_cons, ← hrest, ← ih]
      by_cases hempty : sql = "" <;> simp [hk, hempty]
    · have hn : count - k = 0 := by omega
      have hrest : count - (k + 1) = 0 := by omega
      have hnone := ih (k + 1)
      rw [hrest] at hnone
      simpa [hk, hn] using hnone

theorem pending_statements (schema : Schema) (count : Nat) :
    (schema.pending count).map (·.statement) = schema.deltas count := by
  rw [pending, List.map_map]
  exact zipIdx_below count 0 schema.migrations

theorem plan_owed (schema : Schema) (present : Bool) (count : Nat) :
    (schema.plan present count).map (·.statement) = schema.owed present count := by
  rw [plan, List.map_append, pending_statements, owed]
  cases present with
  | true => rfl
  | false =>
    rw [if_neg Bool.false_ne_true, if_neg Bool.false_ne_true, creation, List.map_map]
    exact congrArg (· ++ schema.deltas count) (List.map_id schema.statements)

end Schema

namespace SchemaBackend

/-- A call that is made of a backend, with its answer. -/
inductive Call
  | tableExists (schema : Schema) (answer : Except LogError Bool)
  | execute (sql : String) (answer : Except LogError Unit)
deriving DecidableEq

/-- The backend, which notes the calls that are made of it. -/
def heard (b : SchemaBackend σ) : SchemaBackend (σ × List Call) where
  tableExists schema s :=
    match b.tableExists schema s.1 with
    | (r, state) => (r, (state, s.2 ++ [.tableExists schema r]))
  execute sql s :=
    match b.execute sql s.1 with
    | (r, state) => (r, (state, s.2 ++ [.execute sql r]))

/-- The backend, where looking for the table comes to `answer`. -/
def answering (b : SchemaBackend σ) (answer : Except LogError Bool) : SchemaBackend σ where
  tableExists schema s := (answer, (b.tableExists schema s).2)
  execute := b.execute

/-- What a run that owes statements answers, and the executions it asks for: all of them succeed and
it answers `ended`, or it stops at the first that fails and tells which. -/
inductive Ran {α : Type} (owed : List String) (ended : α) : Except LogError α → List Call → Prop
  | all : Ran owed ended (.ok ended) (owed.map fun sql => .execute sql (.ok ()))
  | failed (done rest : List String) (sql : String) (failure error : LogError) :
    owed = done ++ sql :: rest → error = .setup (Text.collapse sql) failure →
    error.code = failure.code →
    Ran owed ended (.error error)
      (done.map (fun sql => .execute sql (.ok ())) ++ [.execute sql (.error failure)])

variable {b : SchemaBackend σ}

/-- One more execution that succeeds before the others. -/
theorem Ran.cons {α : Type} {owed : List String} {ended : α} {r : Except LogError α}
    {calls : List Call} (h : Ran owed ended r calls) (sql : String) :
    Ran (sql :: owed) ended r (.execute sql (.ok ()) :: calls) := by
  cases h with
  | all => exact .all
  | failed done rest failing failure error howed herror hcode =>
    exact .failed (sql :: done) rest failing failure error (by rw [howed, List.cons_append]) herror
      hcode

/-- With the same calls, but another answer at the end. -/
theorem Ran.map {α β : Type} {owed : List String} {ended : α} {r : Except LogError α}
    {calls : List Call} (h : Ran owed ended r calls) (f : α → β) :
    Ran owed (f ended) (r.map f) calls := by
  cases h with
  | all => exact .all
  | failed done rest failing failure error howed herror hcode =>
    exact .failed done rest failing failure error howed herror hcode

/-- Noting changes nothing of a run, and the calls are those that tell the answer. -/
theorem runTasks_heard (b : SchemaBackend σ) (tasks : List Task) (s : σ) :
    ∃ calls, Ran (tasks.map (·.statement)) () (runTasks b tasks s).1 calls ∧
      ∀ l, runTasks b.heard tasks (s, l) =
        ((runTasks b tasks s).1, (runTasks b tasks s).2.1,
          (runTasks b tasks s).2.2, l ++ calls) := by
  induction tasks generalizing s with
  | nil => exact ⟨[], .all, fun l => by simp [runTasks]⟩
  | cons t tasks ih =>
    rcases he : b.execute t.statement s with ⟨e | ⟨⟩, s'⟩
    · refine ⟨[.execute t.statement (.error e)], ?_, fun l => by simp [runTasks, heard, he]⟩
      simp only [runTasks, he]
      exact .failed [] (tasks.map (·.statement)) t.statement e _ rfl rfl rfl
    · obtain ⟨calls, hran, hrun⟩ := ih s'
      refine ⟨.execute t.statement (.ok ()) :: calls, ?_, fun l => ?_⟩
      · simp only [runTasks, he]
        exact hran.cons t.statement
      · have hstep : b.heard.execute t.statement (s, l) =
            (.ok (), (s', l ++ [.execute t.statement (.ok ())])) := by
          simp [heard, he]
        simp [runTasks, he, hstep, hrun]

/-- The table counts as present only if the check answers so. -/
theorem findTable_fst (b : SchemaBackend σ) (schema : Schema) (s : σ) :
    (findTable b schema s).1 = decide ((b.tableExists schema s).1 = .ok true) := by
  rcases h : b.tableExists schema s with ⟨e | p, s'⟩ <;> simp [findTable, h]

theorem findTable_heard (b : SchemaBackend σ) (schema : Schema) (s : σ) (l : List Call) :
    findTable b.heard schema (s, l) =
      ((findTable b schema s).1, (findTable b schema s).2.1, (findTable b schema s).2.2,
        l ++ [.tableExists schema (b.tableExists schema s).1]) := by
  rcases h : b.tableExists schema s with ⟨e | p, s'⟩ <;> simp [findTable, heard, h]

theorem install_heard (b : SchemaBackend σ) (schema : Schema) (count : Nat) (s : σ) :
    ∃ calls,
      Ran (schema.owed (decide ((b.tableExists schema s).1 = .ok true)) count)
        (⟨decide ((b.tableExists schema s).1 ≠ .ok true), (schema.deltas count).length⟩ : Installed)
        (install b schema count s).1 calls ∧
      ∀ l, install b.heard schema count (s, l) =
        ((install b schema count s).1, (install b schema count s).2.1,
          (install b schema count s).2.2,
            l ++ .tableExists schema (b.tableExists schema s).1 :: calls) := by
  obtain ⟨calls, hran, hrun⟩ :=
    runTasks_heard b (schema.plan (findTable b schema s).1 count) (findTable b schema s).2.2
  refine ⟨calls, ?_, fun l => ?_⟩
  · have hanswer := (install_eq b schema count s).1
    have hlength : (schema.pending count).length = (schema.deltas count).length := by
      rw [← Schema.pending_statements, List.length_map]
    rw [← findTable_snd, hlength] at hanswer
    rw [Schema.plan_owed] at hran
    rw [hanswer, ← findTable_fst, decide_not, ← findTable_fst]
    exact hran.map fun _ => _
  · simp only [install, findTable_heard, hrun]
    split <;> simp [*]

theorem runTasks_answering (b : SchemaBackend σ) (answer : Except LogError Bool)
    (tasks : List Task) (s : σ) : runTasks (b.answering answer) tasks s = runTasks b tasks s := by
  induction tasks generalizing s with
  | nil => rfl
  | cons t tasks ih => simp only [runTasks, answering, ← ih]

/-- Of the check a run uses nothing but whether it answers that the table is there. -/
theorem install_answering (b : SchemaBackend σ) (schema : Schema) (count : Nat) (s : σ) :
    let found := b.answering (.ok (decide ((b.tableExists schema s).1 = .ok true)))
    (install found schema count s).1 = (install b schema count s).1 ∧
      (install found schema count s).2.2 = (install b schema count s).2.2 := by
  intro found
  have hfound : (findTable found schema s).1 = (findTable b schema s).1 := by
    rw [findTable_fst, findTable_fst]
    show decide (Except.ok (decide ((b.tableExists schema s).1 = .ok true)) = .ok true) = _
    simp
  obtain ⟨hr, hs⟩ := install_eq b schema count s
  obtain ⟨hr', hs'⟩ := install_eq found schema count s
  rw [hfound, runTasks_answering] at hr' hs'
  exact ⟨hr'.trans hr.symm, hs'.trans hs.symm⟩

/-- A run looks for the table once, and then executes what it owes, up to the first statement that
fails and nothing behind it: the statements of the schema, unless the check has answered that the
table is there, and the migrations below `count` that are not empty. If none fails it answers
whether there was a table to create and how many migrations it has replayed, and if one fails, that
failure with the text of the statement on one line. An error of the check makes no difference
to the run. -/
theorem install_trace (b : SchemaBackend σ) (schema : Schema) (count : Nat) (s : σ) :
    (∃ calls,
      Ran (schema.owed (decide ((b.tableExists schema s).1 = .ok true)) count)
        (⟨decide ((b.tableExists schema s).1 ≠ .ok true), (schema.deltas count).length⟩ : Installed)
        (install b schema count s).1 calls ∧
      ∀ l, install b.heard schema count (s, l) =
        ((install b schema count s).1, (install b schema count s).2.1,
          (install b schema count s).2.2,
            l ++ .tableExists schema (b.tableExists schema s).1 :: calls)) ∧
    (let found := b.answering (.ok (decide ((b.tableExists schema s).1 = .ok true)))
     (install found schema count s).1 = (install b schema count s).1 ∧
      (install found schema count s).2.2 = (install b schema count s).2.2) :=
  ⟨install_heard b schema count s, install_answering b schema count s⟩

/-- The table cannot be looked for, and the delta fails: the statements of the schema are executed
before it, and the empty delta is passed over. -/
theorem install_trace_deltaFailed :
    (let b := Rehearsal.backend (.backend "42" ⟨"boom", []⟩) ["ALTER TABLE t ADD d"]
     let s : Rehearsal := ⟨none, []⟩
     Ran ["CREATE TABLE t (c)", "CREATE INDEX t_c ON t (c)", "ALTER TABLE t ADD d"]
        (⟨true, 1⟩ : Installed) (install b tiny 9 s).1
        [.execute "CREATE TABLE t (c)" (.ok ()), .execute "CREATE INDEX t_c ON t (c)" (.ok ()),
          .execute "ALTER TABLE t ADD d" (.error (.backend "42" ⟨"boom", []⟩))] ∧
      (install b tiny 9 s).1 =
        .error (.setup "ALTER TABLE t ADD d" (.backend "42" ⟨"boom", []⟩))) := by
  intro b s
  obtain ⟨⟨calls, hran, hcalls⟩, -⟩ := install_trace b tiny 9 s
  have hheard : (install b.heard tiny 9 (s, [])).2.2.2 =
      [.tableExists tiny (.error (.backend "42" ⟨"boom", []⟩)),
        .execute "CREATE TABLE t (c)" (.ok ()), .execute "CREATE INDEX t_c ON t (c)" (.ok ()),
        .execute "ALTER TABLE t ADD d" (.error (.backend "42" ⟨"boom", []⟩))] := by
    decide +kernel
  rw [hcalls, List.nil_append, List.cons.injEq] at hheard
  rw [hheard.2] at hran
  exact ⟨hran, by decide +kernel⟩

end SchemaBackend

end RevisionLog
