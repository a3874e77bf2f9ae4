import RevisionLog.Proofs.Opening
import RevisionLog.Store.Session

/-!
# Two ways to learn the id of a new row

A dialect has the engine answer the id of a new row with the insertion, or asks the connection for
the id that it remembers. Stores that differ in this, in the isolation that they ask for and in what
the connection remembers are twins (`Store.Twins`). Whatever is asked of both gets the same answer
and leaves twins (`Session.perform_twins`), since a connection that is asked right after an
insertion remembers the row of that insertion (`Store.insert_fst`). So whole runs agree:
`Session.run_insertReturning`.
-/

namespace RevisionLog

/-- What is asked of the log itself, and not of the database behind it or of the session. -/
def Request.isOperation : Request → Bool
  | .hasTable _ | .write .. | .dropTable | .dropIndex _ | .indexNames | .describe | .close
  | .reopen _ => false
  | _ => true

theorem Flavor.isPlain_sqlite : Dialect.sqlite.flavor.isPlain = true := by decide +kernel

/-- The id that a reply tells. -/
def Reply.id? : Reply → Option Int
  | .one (.ok (.revision i)) => some i
  | _ => none

namespace SchemaBackend

variable {σ : Type} {b : SchemaBackend σ} {R : σ → σ → Prop} {s s' : σ}

theorem runTasks_alike (tasks : List Task) (hexecute : ∀ sql s s', R s s' →
      (b.execute sql s').1 = (b.execute sql s).1 ∧ R (b.execute sql s).2 (b.execute sql s').2)
    (h : R s s') :
    (runTasks b tasks s').1 = (runTasks b tasks s).1 ∧
      (runTasks b tasks s').2.1 = (runTasks b tasks s).2.1 ∧
      R (runTasks b tasks s).2.2 (runTasks b tasks s').2.2 := by
  induction tasks generalizing s s' with
  | nil => exact ⟨rfl, rfl, h⟩
  | cons task tasks ih =>
    have ht := hexecute task.statement s s' h
    rcases he : b.execute task.statement s with ⟨r, u⟩
    rcases he' : b.execute task.statement s' with ⟨r', u'⟩
    rw [he, he'] at ht
    obtain ⟨rfl, hu⟩ := ht
    cases r' with
    | error e => simpa only [runTasks, he, he', true_and] using hu
    | ok =>
      obtain ⟨hr, hevents, hR⟩ := ih hu
      simp only [runTasks, he, he', hr, hevents, true_and]
      exact hR

/-- An installation answers the same from related states, and leaves related states, if the check
and every execution do so. -/
theorem install_alike {schema : Schema} (hcheck : ∀ s s', R s s' →
      (b.tableExists schema s').1 = (b.tableExists schema s).1 ∧
        R (b.tableExists schema s).2 (b.tableExists schema s').2)
    (hexecute : ∀ sql s s', R s s' →
      (b.execute sql s').1 = (b.execute sql s).1 ∧ R (b.execute sql s).2 (b.execute sql s').2)
    (h : R s s') (count : Nat) :
    (install b schema count s').1 = (install b schema count s).1 ∧
      (install b schema count s').2.1 = (install b schema count s).2.1 ∧
      R (install b schema count s).2.2 (install b schema count s').2.2 := by
  have hfind : (findTable b schema s').1 = (findTable b schema s).1 ∧
      (findTable b schema s').2.1 = (findTable b schema s).2.1 ∧
      R (findTable b schema s).2.2 (findTable b schema s').2.2 := by
    have ht := hcheck s s' h
    rcases he : b.tableExists schema s with ⟨r, u⟩
    rcases he' : b.tableExists schema s' with ⟨r', u'⟩
    rw [he, he'] at ht
    obtain ⟨rfl, hu⟩ := ht
    cases r' <;> simpa only [findTable, he, he', true_and] using hu
  rcases hf : findTable b schema s with ⟨present, checked, u⟩
  rcases hf' : findTable b schema s' with ⟨present', checked', u'⟩
  rw [hf, hf'] at hfind
  obtain ⟨rfl, rfl, hu⟩ := hfind
  have hrun := runTasks_alike (schema.plan present' count) hexecute hu
  rcases ht : runTasks b (schema.plan present' count) u with ⟨r, ran, v⟩
  rcases ht' : runTasks b (schema.plan present' count) u' with ⟨r', ran', v'⟩
  rw [ht, ht'] at hrun
  obtain ⟨rfl, rfl, hv⟩ := hrun
  cases r' <;> simpa only [RevisionLog.install, hf, hf', ht, ht', true_and] using hv

end SchemaBackend

namespace Store

variable {α : Type} {s s' : Store}

/-- Either way an insertion answers what putting its row in answers. -/
theorem insert_fst (s : Store) (d : Draft) : (s.insert d).1 = (s.append d.row).1 := by
  -- nothing comes between the row and the question for its id
  unfold insert append
  rcases s.enter (d.row 0) (·.append d.row) with ⟨e | id, u⟩ <;> simp

/-- The stores are on the same database, tell its faults alike, and do what statements in their
flavor say. They may differ in how an insertion answers its id, in the isolation that they ask for,
and in the id that the connection remembers. -/
structure Twins (s s' : Store) : Prop where
  connection : s'.connection = s.connection
  blocked : s'.blocked = s.blocked
  logError : s'.dialect.logError = s.dialect.logError
  flavor : s'.dialect.flavor = s.dialect.flavor
  plain : s.dialect.flavor.isPlain = true

namespace Twins

theorem guarded (h : s.Twins s') (r : Except Fault α) : s'.guarded r = s.guarded r := by
  rw [Store.guarded, Store.guarded, h.blocked]

theorem call (h : s.Twins s') (f : Database → Except Fault α × Database) :
    (s'.call f).1 = (s.call f).1 ∧ (s.call f).2.Twins (s'.call f).2 := by
  unfold Store.call
  rw [h.connection, h.logError]
  cases s.connection with
  | error e => exact ⟨rfl, h⟩
  | ok db => exact ⟨rfl, rfl, h.blocked, h.logError, h.flavor, h.plain⟩

theorem query (h : s.Twins s') (f : Table → Except Fault α) : s'.query f = s.query f :=
  (h.call _).1

theorem trans {s'' : Store} (h : s.Twins s') (h' : s'.Twins s'') : s.Twins s'' :=
  ⟨h'.connection.trans h.connection, h'.blocked.trans h.blocked, h'.logError.trans h.logError,
    h'.flavor.trans h.flavor, h.plain⟩

theorem update (h : s.Twins s') (f : Table → Except Fault (α × Table)) :
    (s'.update f).1 = (s.update f).1 ∧ (s.update f).2.Twins (s'.update f).2 := by
  simp only [Store.update, h.guarded]
  exact h.call _

theorem enter (h : s.Twins s') (row : StoredRow) (f : Table → Except Fault (α × Table)) :
    (s'.enter row f).1 = (s.enter row f).1 ∧ (s.enter row f).2.Twins (s'.enter row f).2 := by
  simp only [Store.enter, h.guarded]
  exact h.call _

theorem alter (h : s.Twins s') (f : Database → Except Fault (Option Database)) :
    (s'.alter f).1 = (s.alter f).1 ∧ (s.alter f).2.Twins (s'.alter f).2 := by
  simp only [Store.alter, h.guarded]
  exact h.call _

theorem append (h : s.Twins s') (row : Int → StoredRow) :
    (s'.append row).1 = (s.append row).1 ∧ (s.append row).2.Twins (s'.append row).2 := by
  have hu := h.enter (row 0) (·.append row)
  rcases hp : s.enter (row 0) (·.append row) with ⟨r, u⟩
  rcases hp' : s'.enter (row 0) (·.append row) with ⟨r', u'⟩
  rw [hp, hp'] at hu
  obtain ⟨rfl, hu⟩ := hu
  cases r' with
  | error e => simpa only [Store.append, hp, hp', true_and] using hu
  | ok id =>
    simp only [Store.append, hp, hp', true_and]
    exact ⟨hu.connection, hu.blocked, hu.logError, hu.flavor, hu.plain⟩

theorem insert (h : s.Twins s') (d : Draft) :
    (s'.insert d).1 = (s.insert d).1 ∧ (s.insert d).2.Twins (s'.insert d).2 := by
  simp only [insert_fst, insert_snd]
  exact h.append d.row

theorem setCompactRevision (h : s.Twins s') (revision : Int) :
    (s'.setCompactRevision revision).1 = (s.setCompactRevision revision).1 ∧
      (s.setCompactRevision revision).2.Twins (s'.setCompactRevision revision).2 := by
  obtain ⟨hr, hu⟩ := h.append (.watermark revision)
  exact ⟨congrArg (·.map fun _ => ()) hr, hu⟩

theorem compact (h : s.Twins s') (revision : Int) :
    (s'.compact revision).1 = (s.compact revision).1 ∧
      (s.compact revision).2.Twins (s'.compact revision).2 := by
  simp only [Store.compact, h.guarded]
  exact h.call _

theorem install (h : s.Twins s') (migration : Nat) :
    (s'.install migration).1 = (s.install migration).1 ∧
      (s'.install migration).2.1 = (s.install migration).2.1 ∧
      (s.install migration).2.2.Twins (s'.install migration).2.2 :=
  SchemaBackend.install_alike (R := Twins) (fun _ _ h => h.call _) (fun _ _ _ h => h.alter _) h
    migration

theorem delete (h : s.Twins s') (id : Int) :
    (s'.delete id).1 = (s.delete id).1 ∧ (s.delete id).2.Twins (s'.delete id).2 :=
  h.update _

end Twins

end Store

namespace Session

variable {s s' : Session}

theorem operations_of_plain (h : s.store.dialect.flavor.isPlain = true) : s.operations = .plain :=
  if_pos h

theorem after_twins {α : Type} {r r' : Except LogError α × Store} (hr : r'.1 = r.1)
    (ht : r.2.Twins r'.2) (f : α → Answer) :
    (s'.after r' f).1 = (s.after r f).1 ∧ (s.after r f).2.store.Twins (s'.after r' f).2.store :=
  ⟨by rw [after, after, hr], ht⟩

theorem told_twins {α : Type} {r r' : Except LogError α} (h : s.store.Twins s'.store) (hr : r' = r)
    (f : α → Answer) :
    (s'.told r' f).1 = (s.told r f).1 ∧ (s.told r f).2.store.Twins (s'.told r' f).2.store :=
  ⟨by rw [told, told, hr], h⟩

/-- An operation gets the same reply from sessions on twins, and leaves twins. -/
theorem perform_twins (h : s.store.Twins s'.store) {q : Request} (hq : q.isOperation = true) :
    (s'.perform q).1 = (s.perform q).1 ∧ (s.perform q).2.store.Twins (s'.perform q).2.store := by
  have ho : s.operations = .plain := operations_of_plain h.plain
  have ho' : s'.operations = .plain := operations_of_plain (by rw [h.flavor]; exact h.plain)
  have hinsert : ∀ d, (s'.insert d).1 = (s.insert d).1 ∧
      (s.insert d).2.store.Twins (s'.insert d).2.store := fun d => by
    rw [Session.insert, Session.insert, ho, ho']
    exact after_twins (h.insert d).1 (h.insert d).2 _
  have hget : ∀ id, s'.store.get id = s.store.get id := fun id => h.query _
  have hlist : ∀ name withDeleted,
      s'.store.listCurrent name "" 0 withDeleted = s.store.listCurrent name "" 0 withDeleted :=
    fun _ _ => h.query _
  cases q with
  | insert d => exact hinsert d
  | succeed id next lease =>
    simp only [perform, ho, ho', Operations.plain, hget]
    split
    · exact ⟨rfl, h⟩
    · exact ⟨rfl, h⟩
    · exact hinsert _
  | put name value lease =>
    simp only [perform, ho, ho', Operations.plain, hlist]
    split
    · exact ⟨rfl, h⟩
    · exact hinsert _
  | remove name lease =>
    simp only [perform, ho, ho', Operations.plain, hlist]
    split
    · exact ⟨rfl, h⟩
    · exact ⟨rfl, h⟩
    · exact hinsert _
  | race a b =>
    obtain ⟨ha, hu⟩ := h.insert a
    obtain ⟨hb, hv⟩ := hu.insert b
    simp only [perform, ho, ho', Operations.plain, ha, hb, true_and]
    exact hv
  | get id =>
    simp only [perform, ho, ho']
    exact told_twins h (h.query _) _
  | listCurrent pattern cursor limit withDeleted =>
    simp only [perform, ho, ho']
    exact told_twins h (h.query _) _
  | list pattern cursor limit revision withDeleted =>
    simp only [perform, ho, ho']
    exact told_twins h (h.query _) _
  | countCurrent pattern cursor =>
    simp only [perform, ho, ho']
    exact told_twins h (congrArg (Except.map _) (h.query _)) _
  | count pattern cursor revision =>
    simp only [perform, ho, ho']
    exact told_twins h (congrArg (Except.map _) (h.query _)) _
  | after pattern revision limit =>
    simp only [perform, ho, ho']
    exact told_twins h (h.query _) _
  | currentRevision => exact told_twins h (h.query _) _
  | compactRevision => exact told_twins h (h.query _) _
  | setCompactRevision revision =>
    simp only [perform, ho, ho']
    exact after_twins (h.setCompactRevision revision).1 (h.setCompactRevision revision).2 _
  | delete id =>
    simp only [perform, ho, ho']
    exact after_twins (h.delete id).1 (h.delete id).2 _
  | compact revision =>
    obtain ⟨hr, hu⟩ := h.compact revision
    simp only [perform, ho, ho', Operations.plain, hr, true_and]
    exact hu
  | install migration =>
    obtain ⟨hr, hevents, hu⟩ := h.install migration
    simp only [perform, hr, hevents, true_and]
    exact hu
  | hasTable | write | dropTable | dropIndex | indexNames | describe | close | reopen => cases hq

theorem run_twins (h : s.store.Twins s'.store) {requests : List Request}
    (hq : ∀ q ∈ requests, q.isOperation = true) :
    (s'.run requests).1 = (s.run requests).1 ∧
      (s.run requests).2.store.Twins (s'.run requests).2.store := by
  induction requests generalizing s s' with
  | nil => exact ⟨rfl, h⟩
  | cons q requests ih =>
    obtain ⟨hr, hu⟩ := perform_twins h (hq q (.head _))
    obtain ⟨hrs, hv⟩ := ih hu fun q hm => hq q (.tail _ hm)
    simp only [run, hr, hrs, true_and]
    exact hv

/-- On equal databases it makes no difference whether the engine answers the id of a new row with
the insertion or the connection is asked for it afterwards, whatever the isolation and whatever the
connections remember at first: a run of operations gets the same replies, and the databases are
equal in the end. -/
theorem run_insertReturning {d : Dialect Fault} (hplain : d.flavor.isPlain = true)
    {i j : Isolation} (hd : s.store.dialect = (d.withInsertReturning true).withIsolation i)
    (hd' : s'.store.dialect = (d.withInsertReturning false).withIsolation j)
    (hconnection : s'.store.connection = s.store.connection)
    (hblocked : s'.store.blocked = s.store.blocked) {requests : List Request}
    (hrequests : ∀ q ∈ requests, q.isOperation = true) :
    (s'.run requests).1 = (s.run requests).1 ∧
      (s'.run requests).2.store.connection = (s.run requests).2.store.connection := by
  have h : s.store.Twins s'.store :=
    { connection := hconnection
      blocked := hblocked
      logError := by rw [hd, hd']; rfl
      flavor := by rw [hd, hd']; rfl
      plain := by rw [hd]; exact hplain }
  obtain ⟨hr, hu⟩ := run_twins h hrequests
  exact ⟨hr, hu.connection⟩

/-- A key and a watermark that are each written twice, a sweep, a deletion and an installation, and
further versions of the key. -/
def contested : List Request :=
  [.insert (.create "key" [1]), .insert (.create "key" [2]), .setCompactRevision 1,
    .setCompactRevision 1, .put "key" [3] none, .insert (.create "key" [4]), .compact 1, .delete 1,
    .install 2, .race (.create "other" [5]) (.create "other" [6]), .remove "key" (some 4),
    .put "key" [7] none, .countCurrent "key" "", .get 3, .currentRevision]

/-- An engine that answers the id with the insertion. -/
def returning : Session where
  store := (Store.open ((Dialect.sqlite.withInsertReturning true).withIsolation .serializable)
    ⟨{}, none⟩ 0).2.2

/-- A connection that is asked for the id, and at first remembers one from before. -/
def remembering : Session where
  store := { (Store.open ((Dialect.sqlite.withInsertReturning false).withIsolation .default)
    ⟨{}, none⟩ 7).2.2 with lastId := 9 }

/-- Both tell the ids of the rows that were put in, and none for those that were not. -/
theorem run_insertReturning_contested :
    (Dialect.sqlite.flavor.isPlain = true ∧
      remembering.store.connection = returning.store.connection ∧
      (∀ q ∈ contested, q.isOperation = true)) ∧
    (remembering.run contested).1 = (returning.run contested).1 ∧
    (remembering.run contested).2.store.connection = (returning.run contested).2.store.connection ∧
    (remembering.run contested).1.filterMap Reply.id? = [1, 3, 5, 6, 6] := by
  have hconnection : remembering.store.connection = returning.store.connection := by
    rw [remembering, returning, Store.open_new, Store.open_new]
  have hrequests : ∀ q ∈ contested, q.isOperation = true := by simp [contested, Request.isOperation]
  obtain ⟨hr, hc⟩ := run_insertReturning Flavor.isPlain_sqlite
    (i := .serializable) (j := .default) (by rw [returning, Store.open_new])
    (by rw [remembering, Store.open_new]) hconnection
    (by rw [remembering, returning, Store.open_new, Store.open_new]) hrequests
  refine ⟨⟨Flavor.isPlain_sqlite, hconnection, hrequests⟩, hr, hc, ?_⟩
  rw [hr, returning, Store.open_new]
  decide +kernel

end Session

end RevisionLog
