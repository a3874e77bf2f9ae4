import RevisionLog.Proofs.FreshIds
import Mathlib.Data.Prod.Basic

/-!
# Records are read back as they were written

An insertion that answers an id has put its draft there: reads bring up the draft's own fields, but
that a record that begins a lifetime without a revision for it is read as begun at its own id
(`Draft.readBack`). Nothing changes a record. Later actions leave it as it is or remove it, and what
is removed does not come back, since its id is not given again (`Store.insert_readBack`).
-/

namespace RevisionLog

/-- The record that is read under the id that a draft was given. -/
def Draft.readBack (d : Draft) (id : Int) : Record :=
  { d with
    id
    createRevision := if d.created = true ∧ d.createRevision = 0 then id else d.createRevision }

theorem Draft.resolved_stored (d : Draft) (id : Int) : (d.stored id).resolved = d.readBack id := by
  rw [Record.resolved, Record.birth]
  by_cases h : d.created = true ∧ d.createRevision = 0
  · simp [readBack, stored, h]
  · simp only [readBack, if_neg h]
    rw [if_neg (by simpa [stored] using h)]
    rfl

namespace Table

variable {t t' : Table} {last last' id : Int} {given : List Int} {rec : Record}

/-- A draft that was put in is there. -/
theorem get_appended (hlog : ∀ r ∈ t'.rows, r.Logged) (hids : t.ids = .counter last) {d : Draft}
    (ha : t.append d.row = .ok (id, t')) : t'.get id = .ok (some (d.readBack id)) := by
  obtain ⟨-, hrows, -, -⟩ := append_inv hids (fun _ => rfl) ha
  have hmem : d.row id ∈ t'.rows := by
    rw [hrows]
    exact List.mem_append_right _ (List.mem_singleton_self _)
  have hread : (d.row id).record? = some (d.readBack id) := by
    rw [Draft.row_eq, StoredRow.record?_row, Draft.resolved_stored]
  exact (get_of_row hlog hmem hread).1

namespace Since

/-- What can be got by an id that had been given could be got then. -/
theorem get_of_le (h : t.Since last given t' last') (hlog : ∀ r ∈ t.rows, r.Logged)
    (hlog' : ∀ r ∈ t'.rows, r.Logged) (hle : id ≤ last) (hget : t'.get id = .ok (some rec)) :
    t.get id = .ok (some rec) := by
  obtain ⟨r, hr, rfl, hread⟩ := exists_row_of_get hlog' hget
  obtain ⟨hthen, -, hid⟩ := get_of_row hlog (h.mem_of_le hr hle) hread
  rwa [hid] at hthen

/-- Under an id that had been given there is what there was, or nothing any more. -/
theorem get_cases (h : t.Since last given t' last') (hlog : ∀ r ∈ t.rows, r.Logged)
    (hlog' : ∀ r ∈ t'.rows, r.Logged) (hle : id ≤ last) :
    t'.get id = t.get id ∨ t'.get id = .ok none := by
  cases hf : (t'.find? id).bind StoredRow.record? with
  | none =>
    rw [get_ok hlog', hf]
    exact .inr rfl
  | some rec =>
    have hget : t'.get id = .ok (some rec) := by rw [get_ok hlog', hf]
    exact .inl (hget.trans (h.get_of_le hlog hlog' hle hget).symm)

end Since

end Table

namespace Store

variable {s : Store} {t : Table} {last id : Int}

/-- Actions leave what is under an id that has been given, or remove it. -/
theorem Serves.get_actAll (h : s.Serves t) (ht : t.Regular) (hids : t.ids = .counter last)
    (hle : id ≤ last) (actions : List Action) :
    (s.actAll actions).get id = s.get id ∨ (s.actAll actions).get id = .ok none := by
  obtain ⟨t', last', h', ht', hsince⟩ := h.actAll_since ht hids actions
  rcases hsince.get_cases ht.logged ht'.logged hle with hsame | hnone
  · have hget := Table.get_ok ht.logged id
    exact .inl ((h'.get_eq.2 (hsame.trans hget)).trans (h.get_eq.2 hget).symm)
  · exact .inr (h'.get_eq.2 hnone)

/-- After any actions, what an insertion has put in under the id that it answers is got as it was
written, and whatever is done later it is got like that until it is removed for good; lists and
polls answer nothing else under the id. -/
theorem insert_readBack (hs : s.IsEmpty) (actions : List Action) {d : Draft} {after : Store}
    (h : (s.actAll actions).insert d = (.ok id, after)) :
    after.get id = .ok (some (d.readBack id)) ∧ ∀ later,
      ((after.actAll later).get id = .ok (some (d.readBack id)) ∨
        (after.actAll later).get id = .ok none) ∧
      ((after.actAll later).get id = .ok none →
        ∀ more, (after.actAll (later ++ more)).get id = .ok none) ∧
      ∀ pattern, (after.actAll later).AnswersOnly pattern
        fun rec => rec.id = id → rec = d.readBack id := by
  obtain ⟨t, last, ht, hreg, hids, -⟩ := hs.actAll actions
  rcases ht.insert_outcome d with ⟨id', s', t', ha, hinsert, ht'⟩ | ⟨e, he⟩
  · rw [hinsert] at h
    cases h
    have hreg' := hreg.insert ha
    obtain ⟨-, -, hids', -⟩ := Table.append_inv hids (fun _ => rfl) ha
    have hget := ht'.get_eq.2 (Table.get_appended hreg'.logged hids ha)
    refine ⟨hget, fun later => ?_⟩
    -- the counter of the table stands at the id now, and never goes back
    have hlater := ht'.get_actAll hreg' hids' (Int.le_refl id) later
    rw [hget] at hlater
    obtain ⟨t'', last'', ht'', hreg'', hsince⟩ := ht'.actAll_since hreg' hids' later
    refine ⟨hlater, fun hnone more => ?_, fun pattern => ?_⟩
    · have hmore := ht''.get_actAll hreg'' hsince.counter hsince.le more
      rwa [hnone, or_self, ← actAll_append] at hmore
    · refine (ht''.answersOnly_iff hreg''.logged).2 (.inr fun rec hrec _ hid => ?_)
      rw [hid] at hrec
      rcases hlater with hsame | hnone
      · rw [hsame] at hrec
        cases hrec
        rfl
      · rw [hnone] at hrec
        cases hrec
  · rw [he] at h
    cases h

/-- A draft that no key is written with: without a name, born and buried at once. -/
def nameless : Draft :=
  { created := true, deleted := true, prevRevision := -5, lease := -1, value := [0, 255] }

/-- It is read back, begun at its own id, and a compaction removes it for good. -/
theorem insert_readBack_nameless : inMemory.IsEmpty ∧
    ∃ after, (inMemory.actAll [.setCompactRevision 7]).insert nameless = (.ok 2, after) ∧
      after.get 2 = .ok (some (nameless.readBack 2)) ∧
      (nameless.readBack 2).createRevision = 2 ∧
      (∀ pattern, (after.actAll [.insert (.create "" [])]).AnswersOnly pattern
        fun rec => rec.id = 2 → rec = nameless.readBack 2) ∧
      ∀ more, (after.actAll ([.compact 7] ++ more)).get 2 = .ok none := by
  have hid : ((inMemory.actAll [.setCompactRevision 7]).insert nameless).1 = .ok 2 := by
    rw [inMemory_eq]
    decide +kernel
  have hswept : (((inMemory.actAll [.setCompactRevision 7]).insert nameless).2.actAll
      [.compact 7]).get 2 = .ok none := by
    rw [inMemory_eq]
    decide +kernel
  have hinsert : (inMemory.actAll [.setCompactRevision 7]).insert nameless =
      (.ok 2, ((inMemory.actAll [.setCompactRevision 7]).insert nameless).2) :=
    Prod.fst_eq_iff.1 hid
  obtain ⟨hget, hlater⟩ := insert_readBack isEmpty_inMemory [.setCompactRevision 7] hinsert
  exact ⟨isEmpty_inMemory, _, hinsert, hget, rfl, (hlater _).2.2, (hlater _).2.1 hswept⟩

end Store

end RevisionLog
