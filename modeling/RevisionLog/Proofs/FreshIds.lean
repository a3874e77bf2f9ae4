import RevisionLog.Proofs.Actions
import RevisionLog.Proofs.Answers
import Mathlib.Data.Prod.Basic

/-!
# Ids are given once

An action that puts a row in gives it an id (`Store.given`): an insertion answers the id, and that
of a watermark is remembered by the connection. The ids come from the counter of the table, which
no action lowers, so they ascend, whatever has been removed in between (`Store.given_ascending`).

`Table.Since last t given t' last'`: since the table was `t`, with ids given up to `last`, the ids
`given` have been given, up to `last'`, and the rows of `t'` are rows of `t` and rows under these
ids. Every action is such a step (`Store.Serves.act_since`), and steps compose (`Since.trans`).
-/

namespace RevisionLog

namespace Table

structure Since (t : Table) (last : Int) (given : List Int) (t' : Table) (last' : Int) : Prop where
  counter : t'.ids = .counter last'
  le : last ≤ last'
  ascending : given.Pairwise (· < ·)
  between : ∀ id ∈ given, last < id ∧ id ≤ last'
  rows : ∀ r ∈ t'.rows, r ∈ t.rows ∨ r.id ∈ given

variable {t t' t'' : Table} {last last' last'' id : Int} {given given' : List Int}

namespace Since

/-- Nothing has been put in. -/
theorem of_subset (hids : t'.ids = .counter last) (hrows : ∀ r ∈ t'.rows, r ∈ t.rows) :
    t.Since last [] t' last :=
  ⟨hids, Int.le_refl _, .nil, by simp, fun r hr => .inl (hrows r hr)⟩

theorem of_append (hids : t.ids = .counter last) {row : Int → StoredRow}
    (hid : ∀ i, (row i).id = i) (ha : t.append row = .ok (id, t')) : t.Since last [id] t' id := by
  obtain ⟨rfl, hrows, hids', -⟩ := append_inv hids hid ha
  refine ⟨hids', by omega, List.pairwise_singleton _ _, fun i hi => ?_, fun r hr => ?_⟩
  · cases List.mem_singleton.1 hi
    omega
  · rw [hrows, List.mem_append, List.mem_singleton] at hr
    rcases hr with hr | rfl
    · exact .inl hr
    · exact .inr (List.mem_singleton.2 (hid _))

theorem trans (h : t.Since last given t' last') (h' : t'.Since last' given' t'' last'') :
    t.Since last (given ++ given') t'' last'' where
  counter := h'.counter
  le := Int.le_trans h.le h'.le
  ascending := by
    refine List.pairwise_append.2 ⟨h.ascending, h'.ascending, fun i hi j hj => ?_⟩
    have := (h.between i hi).2
    have := (h'.between j hj).1
    omega
  between := by
    intro i hi
    have hle := h.le
    have hle' := h'.le
    rcases List.mem_append.1 hi with hi | hi
    · have := h.between i hi
      omega
    · have := h'.between i hi
      omega
  rows := by
    intro r hr
    rw [List.mem_append]
    rcases h'.rows r hr with hr | hr
    · exact (h.rows r hr).imp_right .inl
    · exact .inr (.inr hr)

/-- Under an id that had been given there is no other row than there was. -/
theorem mem_of_le (h : t.Since last given t' last') {r : StoredRow} (hr : r ∈ t'.rows)
    (hle : r.id ≤ last) : r ∈ t.rows := by
  rcases h.rows r hr with hr | hid
  · exact hr
  · have := (h.between r.id hid).1
    omega

end Since

end Table

/-- An action that puts no row in. -/
theorem Action.Effect.since {t t' : Table} {a : Action} {last : Int} (he : a.Effect t t')
    (hids : t.ids = .counter last) (hnone : a.place? = none) : t.Since last [] t' last := by
  cases he with
  | nothing => exact .of_subset hids fun _ hr => hr
  | insert => cases hnone
  | watermark => cases hnone
  | compact => exact .of_subset (by simpa using hids) fun r hr => (Table.mem_compacted.1 hr).1
  | delete => exact .of_subset hids fun r hr => (List.mem_filter.1 hr).1
  | install _ hi => exact .of_subset (hi.ids.trans hids) fun r hr => hi.rows ▸ hr

namespace Store

variable {s : Store} {t : Table} {last : Int}

/-- The id that an action gives to a new row. -/
def given (s : Store) : Action → Option Int
  | .insert d => (s.insert d).1.toOption
  | .setCompactRevision revision =>
    (s.setCompactRevision revision).1.toOption.map fun _ =>
      (s.setCompactRevision revision).2.lastId
  | .compact _ | .delete _ | .install _ => none

/-- The ids that actions give, one after another. -/
def givenBy (s : Store) : List Action → List Int
  | [] => []
  | a :: actions => (s.given a).toList ++ (s.act a).givenBy actions

theorem givenBy_append (s : Store) (actions more : List Action) :
    s.givenBy (actions ++ more) = s.givenBy actions ++ (s.actAll actions).givenBy more := by
  induction actions generalizing s with
  | nil => rfl
  | cons a actions ih =>
    rw [List.cons_append, givenBy, ih, givenBy, List.append_assoc]
    rfl

theorem actAll_append (s : Store) (actions more : List Action) :
    s.actAll (actions ++ more) = (s.actAll actions).actAll more := List.foldl_append

namespace Serves

/-- What an action makes of the table, with the id that it gives. -/
theorem act_since (h : s.Serves t) (ht : t.Regular) (hids : t.ids = .counter last) (a : Action) :
    ∃ t' last', (s.act a).Serves t' ∧ t'.Regular ∧
      t.Since last (s.given a).toList t' last' := by
  have hsame : t.Since last [] t last := .of_subset hids fun _ hr => hr
  cases a with
  | insert d =>
    rcases h.insert_outcome d with ⟨id, s', t', ha, hs, ht'⟩ | ⟨e, he⟩
    · rw [act, given, hs]
      exact ⟨t', id, ht', ht.insert ha, .of_append hids (fun _ => rfl) ha⟩
    · rw [act, given, he]
      exact ⟨t, last, h, ht, hsame⟩
  | setCompactRevision revision =>
    rcases h.append_outcome (.watermark revision) fun _ => rfl with
      ⟨_, s', t', ha, hs, ht', rfl⟩ | ⟨e, he⟩
    · rw [act, given, setCompactRevision, hs]
      exact ⟨t', _, ht', ht.watermark ha, .of_append hids (fun _ => rfl) ha⟩
    · rw [act, given, setCompactRevision, he]
      exact ⟨t, last, h, ht, hsame⟩
  | _ =>
    -- the other actions put no row in
    obtain ⟨t', ht', he⟩ := h.act_effect ht _
    exact ⟨t', last, ht', he.regular ht, he.since hids rfl⟩

theorem actAll_since (h : s.Serves t) (ht : t.Regular) (hids : t.ids = .counter last)
    (actions : List Action) :
    ∃ t' last', (s.actAll actions).Serves t' ∧ t'.Regular ∧
      t.Since last (s.givenBy actions) t' last' := by
  induction actions generalizing s t last with
  | nil => exact ⟨t, last, h, ht, .of_subset hids fun _ hr => hr⟩
  | cons a actions ih =>
    obtain ⟨t₁, last₁, h₁, ht₁, hsince₁⟩ := h.act_since ht hids a
    obtain ⟨t₂, last₂, h₂, ht₂, hsince₂⟩ := ih h₁ ht₁ hsince₁.counter
    exact ⟨t₂, last₂, h₂, ht₂, hsince₁.trans hsince₂⟩

end Serves

/-- The ids that any actions on an empty log have given ascend, and every row that is there has one
of them. -/
theorem IsEmpty.since (hs : s.IsEmpty) (actions : List Action) :
    ∃ t last, (s.actAll actions).Serves t ∧ t.Regular ∧ t.ids = .counter last ∧
      (s.givenBy actions).Pairwise (· < ·) ∧ (∀ id ∈ s.givenBy actions, id ≤ last) ∧
      ∀ r ∈ t.rows, r.id ∈ s.givenBy actions := by
  obtain ⟨t₀, ht₀, hrows, hids, hu⟩ := hs.serves
  obtain ⟨t, last, ht, hreg, hsince⟩ :=
    ht₀.actAll_since ⟨by simp [hrows], ⟨0, hids⟩, hu⟩ hids actions
  refine ⟨t, last, ht, hreg, hsince.counter, hsince.ascending,
    fun id hid => (hsince.between id hid).2, fun r hr => (hsince.rows r hr).resolve_left ?_⟩
  simp [hrows]

/-- An insertion after any actions answers an id above every id that was given before, above those
of all rows that were ever there, and above every revision that was ever current, whichever way the
dialect has it answered. -/
theorem given_ascending (hs : s.IsEmpty) (actions : List Action) {d : Draft} {id : Int}
    {after : Store} (h : (s.actAll actions).insert d = (.ok id, after)) :
    (s.givenBy actions ++ [id]).Pairwise (· < ·) ∧ ∀ before, before <+: actions →
      (∀ i rec, (s.actAll before).get i = .ok (some rec) → i ∈ s.givenBy actions) ∧
      ∃ revision, (s.actAll before).currentRevision = .ok revision ∧ revision < id := by
  have hgiven : ((s.actAll actions).givenBy [.insert d]) = [id] := by
    rw [givenBy, given, h]
    rfl
  obtain ⟨-, -, -, -, -, hascending, -, -⟩ := hs.since (actions ++ [.insert d])
  rw [givenBy_append, hgiven] at hascending
  refine ⟨hascending, ?_⟩
  rintro before ⟨later, rfl⟩
  obtain ⟨t, last, ht, hreg, hids, -, -, hrows⟩ := hs.since before
  refine ⟨fun i rec hget => ?_, t.currentRevision, ht.currentRevision, ?_⟩
  · obtain ⟨r, hr, rfl, -⟩ := Table.exists_row_of_get hreg.logged (ht.get_eq.1 hget)
    rw [givenBy_append]
    exact List.mem_append_left _ (hrows r hr)
  · -- the insertion is one of the actions since, so its id is above the counter of then
    obtain ⟨_, _, -, -, hsince⟩ := ht.actAll_since hreg hids (later ++ [.insert d])
    have hmem : id ∈ (s.actAll before).givenBy (later ++ [.insert d]) := by
      rw [givenBy_append, ← actAll_append, hgiven]
      exact List.mem_append_right _ (List.mem_singleton_self id)
    have hlt := (hsince.between id hmem).1
    have hle := Table.currentRevision_le hids
    omega

/-- A key that is written, buried and swept, and a watermark that is removed by its id: every row is
gone in the end. -/
def emptied : List Action :=
  [.insert (.create "key" [1]), .insert (.create "key" [2]), .setCompactRevision 10,
    .insert { name := "key", deleted := true, prevRevision := 1 }, .compact 10, .delete 2]

/-- A store whose insertions ask the connection for the id. -/
def asking : Store := (Store.open (Dialect.sqlite.withInsertReturning false) ⟨{}, none⟩ 0).2.2

/-- The next id is behind that of the tombstone, though the current revision is 0 again. -/
theorem given_ascending_emptied : asking.IsEmpty ∧ asking.givenBy emptied = [1, 2, 3] ∧
    (asking.actAll emptied).currentRevision = .ok 0 ∧
    (∃ after, (asking.actAll emptied).insert (.create "key" [2]) = (.ok 4, after)) ∧
    (asking.givenBy emptied ++ [4]).Pairwise (· < ·) ∧
    ∃ revision, (asking.actAll (emptied.take 4)).currentRevision = .ok revision ∧
      revision < 4 := by
  have hempty : asking.IsEmpty := by
    rw [asking]
    exact isEmpty_open rfl 0
  have hrun : asking.givenBy emptied = [1, 2, 3] ∧
      (asking.actAll emptied).currentRevision = .ok 0 ∧
      ((asking.actAll emptied).insert (.create "key" [2])).1 = .ok 4 := by
    rw [asking, open_new]
    decide +kernel
  obtain ⟨hgiven, hcurrent, hid⟩ := hrun
  have hinsert : (asking.actAll emptied).insert (.create "key" [2]) =
      (.ok 4, ((asking.actAll emptied).insert (.create "key" [2])).2) :=
    Prod.fst_eq_iff.1 hid
  obtain ⟨hascending, hbefore⟩ := given_ascending hempty emptied hinsert
  exact ⟨hempty, hgiven, hcurrent, ⟨_, hinsert⟩, hascending,
    (hbefore (emptied.take 4) (List.take_prefix _ _)).2⟩

end Store

end RevisionLog
