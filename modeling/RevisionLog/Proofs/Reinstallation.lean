import RevisionLog.Proofs.Operations
import RevisionLog.Proofs.Sweeps
import RevisionLog.Proofs.Twins
import RevisionLog.Proofs.WorkspaceSpec

/-!
# Installing again

On a table with all its indexes an installation finds nothing to do: the store stays as it is
(`Store.IsInstalled.install`). Every operation leaves such a table, and a file can be opened again
with the same database (`Session.Stands.reopen`). So installations and openings may come between the
operations of a run wherever they like: `Session.IsNew.run_interrupted`.
-/

namespace RevisionLog

/-! ## What an installation tells -/

namespace Schema

/-- How many migrations below `count` are not empty. -/
def applied (schema : Schema) (count : Nat) : Nat :=
  (schema.migrations.take count).countP (· != "")

/-- What an installation tells that finds everything there. -/
def replayed (schema : Schema) (count : Nat) : List Event :=
  .configuring :: (schema.pending count).map .executing ++ [.upToDate]

theorem countP_zipIdx (count start : Nat) (migrations : List String) :
    (migrations.zipIdx start).countP (fun (sql, i) => i < count && sql != "") =
      (migrations.take (count - start)).countP (· != "") := by
  induction migrations generalizing start with
  | nil => simp
  | cons sql migrations ih =>
    rw [List.zipIdx_cons, List.countP_cons, ih]
    rcases Nat.lt_or_ge start count with hlt | hge
    · rw [show count - start = count - (start + 1) + 1 by omega, List.take_succ_cons,
        List.countP_cons]
      simp [hlt]
    · simp [show count - start = 0 by omega, show count - (start + 1) = 0 by omega,
        Nat.not_lt.2 hge]

theorem length_pending (schema : Schema) (count : Nat) :
    (schema.pending count).length = schema.applied count := by
  rw [pending, List.length_map, ← List.countP_eq_length_filter, countP_zipIdx, Nat.sub_zero,
    applied]

end Schema

theorem SchemaBackend.runTasks_still {σ : Type} {b : SchemaBackend σ} {tasks : List Task} {s : σ}
    (h : ∀ task ∈ tasks, b.execute task.statement s = (.ok (), s)) :
    runTasks b tasks s = (.ok (), tasks.map .executing, s) := by
  induction tasks with
  | nil => rfl
  | cons task tasks ih =>
    simp only [runTasks, h task (.head _), ih fun task ht => h task (.tail _ ht), List.map_cons]

/-! ## Stores that have everything -/

/-- An operation takes no index away. -/
theorem Action.Effect.indexes {t t' : Table} {a : Action} (ht : t.Regular) (he : a.Effect t t') :
    t.indexes ⊆ t'.indexes := by
  obtain ⟨last, hids⟩ := ht.counter
  cases he with
  | nothing => exact List.Subset.refl _
  | insert ha =>
    obtain ⟨-, -, -, hix⟩ := Table.append_inv hids (fun _ => rfl) ha
    rw [hix]
    exact List.Subset.refl _
  | watermark ha =>
    obtain ⟨-, -, -, hix⟩ := Table.append_inv hids (fun _ => rfl) ha
    rw [hix]
    exact List.Subset.refl _
  | compact =>
    rw [Table.compacted_indexes]
    exact List.Subset.refl _
  | delete => exact List.Subset.refl _
  | install _ hi => exact hi.indexes

namespace Store

/-- The store can be written to, and its table has what the last migration makes. -/
def IsInstalled (s : Store) : Prop := ∃ t, s.Serves t ∧ t.Regular ∧ .byNewest ∈ t.indexes

theorem dialect_act (s : Store) (a : Action) : (s.act a).dialect = s.dialect := by
  cases a with
  | insert d => rw [act, insert_snd, dialect_append]
  | setCompactRevision revision => rw [act, setCompactRevision_snd, dialect_append]
  | compact revision => exact s.dialect_call _
  | delete id => exact s.dialect_call _
  | install migration =>
    rw [act, Store.install, (SchemaBackend.install_eq backend .sqlite migration s).2,
      backend_tableExists]
    refine SchemaBackend.runTasks_keeps (P := fun u : Store => u.dialect = s.dialect)
      (fun _ _ u hu => ?_) rfl
    exact (u.dialect_call _).trans hu

theorem dialect_actAll (s : Store) (actions : List Action) :
    (s.actAll actions).dialect = s.dialect := by
  induction actions generalizing s with
  | nil => rfl
  | cons a actions ih => exact (ih (s.act a)).trans (s.dialect_act a)

theorem isInstalled_fresh {dialect : Dialect Fault} (hd : dialect.classify = Fault.classify) :
    IsInstalled { dialect, connection := .ok .fresh } :=
  ⟨_, ⟨rfl, rfl, hd⟩, ⟨by simp [Table.counting], ⟨0, rfl⟩, rfl⟩, by
    simp [Table.counting]⟩

namespace IsInstalled

variable {s : Store}

/-- There is nothing to install. -/
theorem install (h : s.IsInstalled) (migration : Nat) :
    s.install migration =
      (.ok ⟨false, Schema.sqlite.applied migration⟩, Schema.sqlite.replayed migration, s) := by
  obtain ⟨t, ht, -, hindex⟩ := h
  obtain ⟨db, hc, hdb⟩ := ht.connection
  have hfound : findTable backend .sqlite s = (true, [], s) := by
    simp [findTable, backend_tableExists, hasTable_of_connection hc, Database.hasTable, hdb,
      Schema.sqlite]
  have hthere : db.hasIndex Index.byNewest.name = true := by
    rw [Database.hasIndex, Bool.or_eq_true, List.any_eq_true]
    exact .inl ⟨.byNewest, by simpa [Database.indexes, hdb] using hindex, by simp [sameName]⟩
  have hdo : db.define (.index .byNewest true) = .ok none := by simp [Database.define, hthere]
  have hstill : ∀ task ∈ Schema.sqlite.pending migration,
      backend.execute task.statement s = (.ok (), s) := by
    intro task htask
    rw [Schema.statement_of_mem_pending htask, execute_definition hc ht.free (by decide) hdo,
      Option.getD_none, ← hc]
  simp only [Store.install, RevisionLog.install, hfound, Schema.plan, if_true, List.nil_append,
    SchemaBackend.runTasks_still hstill, Schema.length_pending, Bool.not_true]
  rfl

theorem act (h : s.IsInstalled) (a : Action) : (s.act a).IsInstalled := by
  obtain ⟨t, ht, hreg, hindex⟩ := h
  obtain ⟨t', ht', he⟩ := ht.act_effect hreg a
  exact ⟨t', ht', he.regular hreg, he.indexes hreg hindex⟩

theorem actAll (h : s.IsInstalled) (actions : List Action) : (s.actAll actions).IsInstalled := by
  induction actions generalizing s with
  | nil => exact h
  | cons a actions ih => exact ih (h.act a)

end IsInstalled

end Store

/-! ## Sessions that can be interrupted -/

/-- The request installs the schema again, or opens the file again. -/
def Request.interrupts : Request → Bool
  | .install _ | .reopen _ => true
  | _ => false

namespace Session

/-- What can be asked of a session on a log: operations, and if the database lies in a file, to open
that again. -/
def allows (s : Session) : Request → Bool
  | .reopen _ => s.file?.isSome
  | q => q.isOperation

/-- A session as it is opened on a new database. -/
inductive IsNew : Session → Prop
  | memory {d : Dialect Fault} : d.classify = Fault.classify → d.flavor.isPlain = true →
    (migration : Nat) → IsNew { store := (Store.open d ⟨{}, none⟩ migration).2.2 }
  | opened {w : Workspace} {text : String} {migration : Nat} {store : Store} : w.IsNew text →
    (w.openStore text migration).result = .ok store →
    IsNew { store, workspace := (w.openStore text migration).workspace, path := some text }

/-- The store has everything that an installation makes, and if its database lies in a file, the
file can be opened again. -/
structure Stands (s : Session) : Prop where
  installed : s.store.IsInstalled
  plain : s.store.dialect.flavor.isPlain = true
  file : ∀ text a p, s.path = some text → Address.parse text = .ok a → a.file? = some p →
    s.store.dialect = .sqlite ∧ ∃ f, s.workspace.Reaches text a p f

variable {s u : Session}

/-- An operation changes the store by some actions, and nothing else. -/
theorem perform_operation (hplain : s.store.dialect.flavor.isPlain = true) {q : Request}
    (hq : q.isOperation = true) :
    ∃ actions, (s.perform q).2 = { s with store := s.store.actAll actions } := by
  have ho : s.operations = .plain := operations_of_plain hplain
  have hinsert : ∀ d, (s.insert d).2 = { s with store := s.store.actAll [.insert d] } := fun d => by
    rw [Session.insert, ho]
    rfl
  cases q with
  | insert d => exact ⟨_, hinsert d⟩
  | succeed id next lease =>
    simp only [perform]
    split
    · exact ⟨[], rfl⟩
    · exact ⟨[], rfl⟩
    · exact ⟨_, hinsert _⟩
  | put name value lease =>
    simp only [perform]
    split
    · exact ⟨[], rfl⟩
    · exact ⟨_, hinsert _⟩
  | remove name lease =>
    simp only [perform]
    split
    · exact ⟨[], rfl⟩
    · exact ⟨[], rfl⟩
    · exact ⟨_, hinsert _⟩
  | race a b =>
    refine ⟨[.insert a, .insert b], ?_⟩
    simp only [perform, ho]
    rfl
  | setCompactRevision revision =>
    refine ⟨[.setCompactRevision revision], ?_⟩
    simp only [perform, ho]
    rfl
  | delete id =>
    refine ⟨[.delete id], ?_⟩
    simp only [perform, ho]
    rfl
  | compact revision =>
    refine ⟨[.compact revision], ?_⟩
    simp only [perform, ho]
    rfl
  | install migration => exact ⟨[.install migration], rfl⟩
  | hasTable | write | dropTable | dropIndex | indexNames | describe | close | reopen => cases hq
  | _ => exact ⟨[], rfl⟩

theorem IsNew.stands (h : s.IsNew) : s.Stands := by
  cases h with
  | memory hclassify hplain migration =>
    rw [Store.open_new]
    exact ⟨Store.isInstalled_fresh hclassify, hplain, fun _ _ _ hpath => by cases hpath⟩
  | opened hnew hopen =>
    obtain ⟨rfl, hreaches⟩ := Workspace.openStore_new hnew hopen
    refine ⟨Store.isInstalled_fresh rfl, Flavor.isPlain_sqlite, ?_⟩
    intro text a p hpath ha hp
    refine ⟨rfl, ?_⟩
    cases hpath
    exact hreaches a p ha hp

theorem exists_of_file? (h : s.file?.isSome = true) :
    ∃ text a p, s.path = some text ∧ Address.parse text = .ok a ∧ a.file? = some p := by
  obtain ⟨⟨p, sharing⟩, hp⟩ := Option.isSome_iff_exists.1 h
  simp only [file?, Option.bind_eq_bind, Option.bind_eq_some_iff] at hp
  obtain ⟨text, hpath, a, ha, p', hfile, -⟩ := hp
  refine ⟨text, a, p', hpath, ?_, hfile⟩
  cases hparse : Address.parse text with
  | error e => simp [hparse, Except.toOption] at ha
  | ok a' => simpa [hparse, Except.toOption] using ha

namespace Stands

theorem install (h : s.Stands) (migration : Nat) :
    s.perform (.install migration) =
      (.logged (.ok (.installed ⟨false, Schema.sqlite.applied migration⟩))
        (Schema.sqlite.replayed migration), s) := by
  simp only [perform, h.installed.install migration]
  rfl

/-- The file is opened again on the same database, and there is nothing to install. -/
theorem reopen (h : s.Stands) (hfile : s.file?.isSome = true) (migration : Nat) :
    ∃ db w, s.store.connection = .ok db ∧
      Store.open .sqlite ⟨db, none⟩ migration =
        (.ok ⟨false, Schema.sqlite.applied migration⟩, Schema.sqlite.replayed migration,
          { dialect := .sqlite, connection := .ok db }) ∧
      s.perform (.reopen migration) =
        (.logged (.ok .done) (Schema.sqlite.replayed migration),
          { s with store := { dialect := .sqlite, connection := .ok db }, workspace := w }) ∧
      (s.perform (.reopen migration)).2.Stands ∧
      s.store.Twins (s.perform (.reopen migration)).2.store := by
  obtain ⟨text, a, p, hpath, ha, hp⟩ := exists_of_file? hfile
  obtain ⟨hdialect, f, hreaches⟩ := h.file text a p hpath ha hp
  obtain ⟨t, ht, hreg, hindex⟩ := h.installed
  obtain ⟨db, hc, hdb⟩ := ht.connection
  have hinstalled : Store.IsInstalled { dialect := .sqlite, connection := .ok db } :=
    ⟨t, ⟨hdb, rfl, rfl⟩, hreg, hindex⟩
  have hopen : Store.open .sqlite ⟨db, none⟩ migration =
      (.ok ⟨false, Schema.sqlite.applied migration⟩, Schema.sqlite.replayed migration,
        { dialect := .sqlite, connection := .ok db }) := hinstalled.install migration
  -- the database is kept in the file, and found there
  have hkept := hreaches.keep hc ht.free
  have hagain := hkept.put.keep (s := { dialect := .sqlite, connection := .ok db }) rfl rfl
  have hperform : s.perform (.reopen migration) =
      (.logged (.ok .done) (Schema.sqlite.replayed migration),
        { s with
          store := { dialect := .sqlite, connection := .ok db }
          workspace := ((s.workspace.keep text s.store).put p
            (.database { f with database := db })).keep text
              { dialect := .sqlite, connection := .ok db } }) := by
    simp only [perform, Session.reopen, hpath, Option.getD_some, hkept.openStore, hopen, Except.map]
  refine ⟨db, _, hc, hopen, hperform, ?_, ?_⟩
  · rw [hperform]
    refine ⟨hinstalled, Flavor.isPlain_sqlite, fun text' a' p' hpath' ha' hp' => ⟨rfl, ?_⟩⟩
    obtain rfl : text = text' := Option.some.inj (hpath.symm.trans hpath')
    obtain rfl : a = a' := Except.ok.inj (ha.symm.trans ha')
    obtain rfl : p = p' := Option.some.inj (hp.symm.trans hp')
    exact ⟨_, hagain⟩
  · rw [hperform]
    exact ⟨hc.symm, ht.free.symm, by rw [hdialect], by rw [hdialect], h.plain⟩

/-- Whatever is allowed leaves a session that stands, and where it was. -/
theorem perform (h : s.Stands) {q : Request} (hq : s.allows q = true) :
    (s.perform q).2.Stands ∧ (s.perform q).2.path = s.path ∧
      (q.interrupts = true → s.store.Twins (s.perform q).2.store) := by
  by_cases ho : q.isOperation = true
  · obtain ⟨actions, hs⟩ := perform_operation h.plain ho
    refine ⟨?_, by rw [hs], fun hi => ?_⟩
    · rw [hs]
      refine ⟨h.installed.actAll actions, ?_, fun text a p hpath ha hp => ?_⟩
      · rw [Store.dialect_actAll]
        exact h.plain
      · rw [Store.dialect_actAll]
        exact h.file text a p hpath ha hp
    · cases q with
      | install migration =>
        rw [h.install migration]
        exact ⟨rfl, rfl, rfl, rfl, h.plain⟩
      | reopen => cases ho
      | _ => cases hi
  · cases q with
    | reopen migration =>
      obtain ⟨db, w, -, -, hperform, hstands, htwins⟩ := h.reopen hq migration
      exact ⟨hstands, by rw [hperform], fun _ => htwins⟩
    | _ => exact absurd hq ho

end Stands

theorem allows_of_path {s' : Session} (h : s'.path = s.path) (q : Request) :
    s'.allows q = s.allows q := by
  unfold allows file?
  rw [h]

/-- Without the interruptions the operations get the same answers, and the stores go on as twins. -/
theorem Stands.run (h : s.Stands) (ht : u.store.Twins s.store) {requests : List Request}
    (hq : ∀ q ∈ requests, s.allows q = true) :
    (u.run (requests.filter (!·.interrupts))).1 =
        ((requests.zip (s.run requests).1).filter (!·.1.interrupts)).map (·.2) ∧
      (u.run (requests.filter (!·.interrupts))).2.store.Twins (s.run requests).2.store := by
  induction requests generalizing s u with
  | nil => exact ⟨rfl, ht⟩
  | cons q requests ih =>
    obtain ⟨hstands, hpath, htwins⟩ := h.perform (hq q (.head _))
    have hrest : ∀ q' ∈ requests, (s.perform q).2.allows q' = true := fun q' hm => by
      rw [allows_of_path hpath]
      exact hq q' (.tail _ hm)
    cases hi : q.interrupts with
    | true =>
      -- only one of the sessions is asked, and its store goes on as it was
      obtain ⟨hr, hv⟩ := ih hstands (ht.trans (htwins hi)) hrest
      simpa [Session.run, hi] using ⟨hr, hv⟩
    | false =>
      have ho : q.isOperation = true := by
        have := hq q (.head _)
        cases q <;> first | exact this | cases hi
      obtain ⟨hr, hv⟩ := perform_twins ht ho
      obtain ⟨hrs, hw⟩ := ih hstands hv hrest
      simpa [Session.run, hi, hr] using ⟨hrs, hw⟩

theorem Stands.run_stands (h : s.Stands) {requests : List Request}
    (hq : ∀ q ∈ requests, s.allows q = true) :
    (s.run requests).2.Stands ∧ (s.run requests).2.path = s.path := by
  induction requests generalizing s with
  | nil => exact ⟨h, rfl⟩
  | cons q requests ih =>
    obtain ⟨hstands, hpath, -⟩ := h.perform (hq q (.head _))
    obtain ⟨hrun, hsame⟩ := ih hstands fun q' hm => by
      rw [allows_of_path hpath]
      exact hq q' (.tail _ hm)
    exact ⟨hrun, hsame.trans hpath⟩

/-- The reply to a request in a run is that of the session after the requests before it. -/
theorem run_getElem? (s : Session) {requests : List Request} {i : Nat} {q : Request}
    (h : requests[i]? = some q) :
    (s.run requests).1[i]? = some ((s.run (requests.take i)).2.perform q).1 ∧
      (s.run (requests.take (i + 1))).2 = ((s.run (requests.take i)).2.perform q).2 := by
  induction requests generalizing s i with
  | nil => cases h
  | cons q' requests ih =>
    cases i with
    | zero =>
      cases h
      exact ⟨rfl, rfl⟩
    | succ i => exact ih (s.perform q').2 h

/-- On a new database, installations and openings of the file again between the operations of a run
change no answer and nothing in the database. Each finds the table there, and applies the migrations
below its number that are not empty. -/
theorem IsNew.run_interrupted (hs : s.IsNew) {requests : List Request}
    (hq : ∀ q ∈ requests, s.allows q = true) :
    ((s.run (requests.filter (!·.interrupts))).1 =
        ((requests.zip (s.run requests).1).filter (!·.1.interrupts)).map (·.2) ∧
      (s.run (requests.filter (!·.interrupts))).2.store.connection =
        (s.run requests).2.store.connection) ∧
    (∀ i migration : Nat, requests[i]? = some (.install migration) →
      (s.run requests).1[i]? =
        some (.logged (.ok (.installed ⟨false, Schema.sqlite.applied migration⟩))
          (Schema.sqlite.replayed migration))) ∧
    ∀ i migration : Nat, requests[i]? = some (.reopen migration) →
      (s.run requests).1[i]? = some (.logged (.ok .done) (Schema.sqlite.replayed migration)) ∧
        ∃ db, (s.run (requests.take i)).2.store.connection = .ok db ∧
          Store.open .sqlite ⟨db, none⟩ migration =
            (.ok ⟨false, Schema.sqlite.applied migration⟩, Schema.sqlite.replayed migration,
              (s.run (requests.take (i + 1))).2.store) := by
  have hstands := hs.stands
  have hself : s.store.Twins s.store := ⟨rfl, rfl, rfl, rfl, hstands.plain⟩
  obtain ⟨hreplies, htwins⟩ := hstands.run hself hq
  have hbefore : ∀ i, (s.run (requests.take i)).2.Stands ∧
      (s.run (requests.take i)).2.path = s.path := fun i =>
    hstands.run_stands fun q hm => hq q (List.mem_of_mem_take hm)
  refine ⟨⟨hreplies, htwins.connection.symm⟩, fun i migration hi => ?_, fun i migration hi => ?_⟩
  · rw [(s.run_getElem? hi).1, (hbefore i).1.install migration]
  · obtain ⟨hreply, hafter⟩ := s.run_getElem? hi
    have hfile : (s.run (requests.take i)).2.allows (.reopen migration) = true := by
      rw [allows_of_path (hbefore i).2]
      exact hq _ (List.mem_of_getElem? hi)
    obtain ⟨db, w, hc, hopen, hperform, -, -⟩ := (hbefore i).1.reopen hfile migration
    rw [hreply, hafter, hperform]
    exact ⟨rfl, db, hc, hopen⟩

/-- A session on a new file, in a directory that is made for it. -/
def filed : Session where
  store := { dialect := .sqlite, connection := .ok .fresh }
  workspace := (({} : Workspace).openStore "data/log.db" 1).workspace
  path := some "data/log.db"

/-- A key, a watermark and a sweep, with openings and installations in between. -/
def interrupted : List Request :=
  [.reopen 5, .insert (.create "key" [1]), .install 2, .put "key" [2] none, .reopen 0,
    .setCompactRevision 2, .insert (.create "key" [3]), .install 1, .compact 2, .reopen 2,
    .put "key" [4] none, .get 1, .currentRevision]

theorem isNew_filed : filed.IsNew := by
  have hnew : ({} : Workspace).IsNew "data/log.db" := by
    intro a p f _ _ hfound
    unfold Workspace.find? at hfound
    split at hfound <;> cases hfound
  cases hopen : (({} : Workspace).openStore "data/log.db" 1).result with
  | error e =>
    have hok : (({} : Workspace).openStore "data/log.db" 1).result.isOk = true := by decide +kernel
    rw [hopen] at hok
    cases hok
  | ok store =>
    obtain ⟨hstore, -⟩ := Workspace.openStore_new hnew hopen
    have := IsNew.opened hnew hopen
    rwa [hstore] at this

/-- The file is opened three times and installed twice on the way, and the ids go on as they do
without. -/
theorem IsNew.run_interrupted_filed : filed.IsNew ∧
    (∀ q ∈ interrupted, filed.allows q = true) ∧
    ((interrupted.zip (filed.run interrupted).1).filter (!·.1.interrupts)).filterMap
      (·.2.id?) = [1, 2, 4, 4] ∧
    (filed.run interrupted).1[2]? = some (.logged (.ok (.installed ⟨false, 1⟩))
      (Schema.sqlite.replayed 2)) ∧
    (filed.run interrupted).1[4]? = some (.logged (.ok .done) (Schema.sqlite.replayed 0)) := by
  have hallows : ∀ q ∈ interrupted, filed.allows q = true := by
    have hfile : filed.file?.isSome = true := by decide +kernel
    simp [interrupted, allows, hfile, Request.isOperation]
  obtain ⟨⟨hreplies, -⟩, hinstall, hreopen⟩ := IsNew.run_interrupted isNew_filed hallows
  refine ⟨isNew_filed, hallows, ?_, hinstall 2 2 rfl, (hreopen 4 0 rfl).1⟩
  rw [← Function.comp_def, ← List.filterMap_map, ← hreplies]
  decide +kernel

end Session

end RevisionLog
