import RevisionLog.Proofs.Installation
import RevisionLog.Proofs.Watermark

/-!
# Stores that anything is done to

An action is any operation that writes, with any arguments: insertions of any draft, under any name,
watermarks, compactions, deletions of single records, and installations of the schema. What it makes
of the table is said once (`Action.Effect`, `Store.Serves.act_effect`). Each keeps the table regular
and takes at most one id (`Store.IsEmpty.actAll`).
-/

namespace RevisionLog

/-- Something that is done to a store. -/
inductive Action
  | insert (draft : Draft)
  | setCompactRevision (revision : Int)
  | compact (revision : Int)
  | delete (id : Int)
  | install (migration : Nat)

/-- The name and the predecessor of the row that an action puts in. -/
def Action.place? : Action → Option (String × Int)
  | .insert d => some (d.name, d.prevRevision)
  | .setCompactRevision revision => some (sentinelName, revision)
  | .compact _ | .delete _ | .install _ => none

/-- The table `t'` is `t` with further indexes, if any. -/
structure Table.Reindexed (t t' : Table) : Prop where
  rows : t'.rows = t.rows
  ids : t'.ids = t.ids
  indexes : t.indexes ⊆ t'.indexes

/-- What an action may make of a table. -/
inductive Action.Effect (t : Table) : Action → Table → Prop
  | nothing (a : Action) : Effect t a t
  | insert {d : Draft} {id : Int} {t' : Table} : t.append d.row = .ok (id, t') →
    Effect t (.insert d) t'
  | watermark {revision id : Int} {t' : Table} : t.append (.watermark revision) = .ok (id, t') →
    Effect t (.setCompactRevision revision) t'
  | compact (revision : Int) :
    Effect t (.compact revision) (t.compacted (min revision t.watermark))
  | delete (id : Int) : Effect t (.delete id) (t.delete id)
  | install (migration : Nat) {t' : Table} : t.Reindexed t' → Effect t (.install migration) t'

namespace Table

variable {t t' t'' : Table} {id : Int}

namespace Reindexed

theorem refl (t : Table) : t.Reindexed t := ⟨rfl, rfl, fun _ hi => hi⟩

theorem trans (h : t.Reindexed t') (h' : t'.Reindexed t'') : t.Reindexed t'' :=
  ⟨h'.rows.trans h.rows, h'.ids.trans h.ids, fun _ hi => h'.indexes (h.indexes hi)⟩

theorem isUnique (h : t.Reindexed t') (hu : t.isUnique = true) : t'.isUnique = true := by
  obtain ⟨i, hi, hiu⟩ := List.any_eq_true.1 hu
  exact List.any_eq_true.2 ⟨i, h.indexes hi, hiu⟩

theorem regular (h : t.Reindexed t') (ht : t.Regular) : t'.Regular where
  logged := by
    rw [h.rows]
    exact ht.logged
  counter := by
    rw [h.ids]
    exact ht.counter
  unique := h.isUnique ht.unique

end Reindexed

namespace Regular

theorem append (h : t.Regular) {row : Int → StoredRow} (hid : ∀ i, (row i).id = i)
    (hlog : ∀ i, (row i).Logged) (ha : t.append row = .ok (id, t')) : t'.Regular := by
  obtain ⟨last, hids⟩ := h.counter
  obtain ⟨-, hrows, hids', hix⟩ := append_inv hids hid ha
  refine ⟨fun r hr => ?_, ⟨id, hids'⟩, by rw [isUnique, hix]; exact h.unique⟩
  rw [hrows, List.mem_append, List.mem_singleton] at hr
  rcases hr with hr | rfl
  · exact h.logged r hr
  · exact hlog id

theorem insert (h : t.Regular) {d : Draft} (ha : t.append d.row = .ok (id, t')) : t'.Regular :=
  h.append (fun _ => rfl) (fun i => .record (d.stored i)) ha

theorem watermark (h : t.Regular) {revision : Int}
    (ha : t.append (.watermark revision) = .ok (id, t')) : t'.Regular :=
  h.append (fun _ => rfl) (fun i => .watermark revision i) ha

theorem compacted (h : t.Regular) (target : Int) : (t.compacted target).Regular where
  logged r hr := h.logged r (mem_compacted.1 hr).1
  counter := by simpa using h.counter
  unique := by rw [compacted_isUnique, h.unique]

theorem delete (h : t.Regular) (id : Int) : (t.delete id).Regular :=
  ⟨fun r hr => h.logged r (List.mem_filter.1 hr).1, h.counter, h.unique⟩

end Regular

end Table

namespace Action.Effect

variable {t t' : Table} {a : Action}

theorem regular (h : t.Regular) (he : Effect t a t') : t'.Regular := by
  cases he with
  | nothing => exact h
  | insert ha => exact h.insert ha
  | watermark ha => exact h.watermark ha
  | compact => exact h.compacted _
  | delete id => exact h.delete id
  | install _ hi => exact hi.regular h

theorem counter (he : Effect t a t') {last : Int} (hids : t.ids = .counter last) :
    ∃ last', t'.ids = .counter last' ∧ last ≤ last' ∧ last' ≤ last + 1 := by
  cases he with
  | nothing => exact ⟨last, hids, by omega, by omega⟩
  | insert ha => exact Table.append_counter hids (fun _ => rfl) ha
  | watermark ha => exact Table.append_counter hids (fun _ => rfl) ha
  | compact => exact ⟨last, by simpa using hids, by omega, by omega⟩
  | delete => exact ⟨last, hids, by omega, by omega⟩
  | install _ hi => exact ⟨last, hi.ids.trans hids, by omega, by omega⟩

end Action.Effect

namespace Store

/-- The store after an action. -/
def act (s : Store) : Action → Store
  | .insert d => (s.insert d).2
  | .setCompactRevision revision => (s.setCompactRevision revision).2
  | .compact revision => (s.compact revision).2
  | .delete id => (s.delete id).2
  | .install migration => (s.install migration).2.2

/-- The store after actions, one after another. -/
def actAll (s : Store) (actions : List Action) : Store := actions.foldl act s

namespace Serves

variable {s : Store} {t : Table}

/-- Executing a definition on a store that has its table can only add an index. -/
theorem execute (h : s.Serves t) (sql : String) :
    ∃ t', (backend.execute sql s).2.Serves t' ∧ t.Reindexed t' := by
  rcases backend_execute s sql with ⟨db, o, hc, ho, hrun⟩ | ⟨e, hrun⟩
  · rw [hrun]
    obtain ⟨db', hc', ht⟩ := h.connection
    rw [hc, Except.ok.injEq] at hc'
    subst hc'
    obtain ⟨d, -, -, hdo⟩ := Database.execute_ok ho
    cases d with
    | table =>
      simp only [Database.define, ht, Option.isSome_some, if_true] at hdo
      split at hdo <;> cases hdo
    | index i ifMissing =>
      simp only [Database.define, ht] at hdo
      split at hdo
      · split at hdo
        · cases hdo
          exact ⟨t, ⟨ht, h.free, h.classify⟩, .refl t⟩
        · cases hdo
      · cases hdo
        exact ⟨t.withIndexes (t.indexes ++ [i]), ⟨rfl, h.free, h.classify⟩, rfl, rfl,
          List.subset_append_left _ _⟩
  · rw [hrun]
    exact ⟨t, h, .refl t⟩

/-- An installation leaves the rows of a table that is there. -/
theorem install (h : s.Serves t) (migration : Nat) :
    ∃ t', (s.install migration).2.2.Serves t' ∧ t.Reindexed t' := by
  rw [Store.install, (SchemaBackend.install_eq backend .sqlite migration s).2, backend_tableExists]
  refine SchemaBackend.runTasks_keeps
    (P := fun s : Store => ∃ t', s.Serves t' ∧ t.Reindexed t') (fun task _ s hs => ?_)
    ⟨t, h, .refl t⟩
  obtain ⟨t', ht', hi⟩ := hs
  obtain ⟨t'', ht'', hi'⟩ := ht'.execute task.statement
  exact ⟨t'', ht'', hi.trans hi'⟩

/-- What an action makes of the table. -/
theorem act_effect (h : s.Serves t) (ht : t.Regular) (a : Action) :
    ∃ t', (s.act a).Serves t' ∧ a.Effect t t' := by
  cases a with
  | insert d =>
    rcases h.insert_outcome d with ⟨id, s', t', ha, hs, ht'⟩ | ⟨e, he⟩
    · rw [act, hs]
      exact ⟨t', ht', .insert ha⟩
    · rw [act, he]
      exact ⟨t, h, .nothing _⟩
  | setCompactRevision revision =>
    rcases h.setCompactRevision_cases ht revision with
      ⟨s', id, t', hset, ht', ha, -⟩ | ⟨e, hset, -⟩
    · rw [act, hset]
      exact ⟨t', ht', .watermark ha⟩
    · rw [act, hset]
      exact ⟨t, h, .nothing _⟩
  | compact revision =>
    obtain ⟨sweep, s', hs, -, ht', -⟩ := h.compact_target ht.logged revision
    rw [act, hs]
    exact ⟨_, ht', .compact revision⟩
  | delete id =>
    obtain ⟨s', hs, ht', -⟩ := h.update_ok (f := fun t => .ok ((), t.delete id)) rfl
    rw [act, delete, hs]
    exact ⟨_, ht', .delete id⟩
  | install migration =>
    obtain ⟨t', ht', hi⟩ := h.install migration
    exact ⟨t', ht', .install migration hi⟩

theorem actAll (h : s.Serves t) (ht : t.Regular) {last : Int} (hids : t.ids = .counter last)
    (actions : List Action) :
    ∃ t' last', (s.actAll actions).Serves t' ∧ t'.Regular ∧ t'.ids = .counter last' ∧
      last ≤ last' ∧ last' ≤ last + actions.length := by
  induction actions generalizing s t last with
  | nil => exact ⟨t, last, h, ht, hids, by omega, by simp⟩
  | cons a actions ih =>
    obtain ⟨t₁, h₁, he⟩ := h.act_effect ht a
    obtain ⟨last₁, hids₁, hle₁, hlast₁⟩ := he.counter hids
    obtain ⟨t₂, last₂, h₂, ht₂, hids₂, hle₂, hlast₂⟩ := ih h₁ (he.regular ht) hids₁
    refine ⟨t₂, last₂, h₂, ht₂, hids₂, by omega, ?_⟩
    rw [List.length_cons]
    omega

end Serves

/-- After any actions on an empty log the table is regular, with at most an id for each. -/
theorem IsEmpty.actAll {s : Store} (hs : s.IsEmpty) (actions : List Action) :
    ∃ t last, (s.actAll actions).Serves t ∧ t.Regular ∧ t.ids = .counter last ∧
      last ≤ actions.length := by
  obtain ⟨t, ht, hrows, hids, hu⟩ := hs.serves
  obtain ⟨t', last, ht', hreg, hids', -, hle⟩ :=
    ht.actAll ⟨by simp [hrows], ⟨0, hids⟩, hu⟩ hids actions
  exact ⟨t', last, ht', hreg, hids', by omega⟩

end Store

end RevisionLog
