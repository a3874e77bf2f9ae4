import RevisionLog.Proofs.Actions
import RevisionLog.Proofs.Answers
import RevisionLog.Proofs.PatternSpec

/-!
# Names as patterns

Reads select names by a pattern, and a name without wildcards is the pattern of all the names that
are like it (`Pattern.likeness`): of itself, of itself in other cases of ASCII letters, of itself
with U+0000 and anything behind it. So a list or a poll with the name of a key answers records of
that key alone exactly as long as the log has none under another name that is like it
(`Store.answers_likeness`).
-/

namespace RevisionLog

namespace Store

/-- After any actions, lists and polls with a name without wildcards answer records of names that
are like it, and of no other name exactly if the log has none under another such name, or the name
is too long for a pattern. -/
theorem answers_likeness {s : Store} (hs : s.IsEmpty) (actions : List Action) {name : String}
    (hname : ∀ c ∈ name.toList, c ≠ '%' ∧ c ≠ '_') :
    (s.actAll actions).AnswersOnly name
        (fun rec => Pattern.likeness rec.name = Pattern.likeness name) ∧
      ((s.actAll actions).AnswersOnly name (fun rec => rec.name = name) ↔
        Pattern.isTooComplex name = true ∨ ∀ other, other ≠ name →
          Pattern.likeness other = Pattern.likeness name →
            (s.actAll actions).versions other = []) := by
  obtain ⟨t, last, ht, hreg, -⟩ := hs.actAll actions
  refine ⟨?_, ?_⟩
  · rw [ht.answersOnly_iff hreg.logged]
    exact .inr fun rec _ hlike => (Cell.isLike_literal hname rec.name).1 hlike
  · rw [ht.answersOnly_iff hreg.logged]
    refine or_congr_right ⟨fun hall other hne halike => ?_, fun hnone rec hget hlike => ?_⟩
    · rw [ht.versions_eq]
      refine List.eq_nil_iff_forall_not_mem.2 fun rec hrec => ?_
      obtain ⟨hget, rfl⟩ := (Table.mem_versions_iff hreg.logged).1 hrec
      exact hne (hall rec (ht.get_eq.2 hget) ((Cell.isLike_literal hname rec.name).2 halike))
    · by_contra hne
      have hmem : rec ∈ t.versions rec.name :=
        (Table.mem_versions_iff hreg.logged).2 ⟨ht.get_eq.1 hget, rfl⟩
      have hnil := hnone rec.name hne ((Cell.isLike_literal hname rec.name).1 hlike)
      rw [ht.versions_eq] at hnil
      rw [hnil] at hmem
      cases hmem

/-- A key, and a longer one that begins with it. -/
def nested : List Action := [.insert (.create "key" [1]), .insert (.create "key/a" [2])]

/-- Neither key is like the other, so the name of the first brings up its records alone. -/
theorem answers_likeness_nested : inMemory.IsEmpty ∧
    (∀ c ∈ "key".toList, c ≠ '%' ∧ c ≠ '_') ∧
    (inMemory.actAll nested).AnswersOnly "key" (fun rec => rec.name = "key") := by
  have hliteral : ∀ c ∈ "key".toList, c ≠ '%' ∧ c ≠ '_' := by simp
  have hnames : (inMemory.actAll nested).table?.map (·.rows.map (·.name)) =
      some [.text "key", .text "key/a"] := by
    rw [inMemory_eq]
    decide +kernel
  refine ⟨isEmpty_inMemory, hliteral, ?_⟩
  obtain ⟨-, hiff⟩ := answers_likeness isEmpty_inMemory nested hliteral
  refine hiff.2 (.inr fun other hne halike => ?_)
  obtain ⟨t, ht, hrows⟩ := Option.map_eq_some_iff.1 hnames
  have hother : ∀ r ∈ t.rows, ¬ (r.name == .text other) = true := by
    intro r hr he
    have hmem : Cell.text other ∈ t.rows.map (·.name) :=
      List.mem_map.2 ⟨r, hr, beq_iff_eq.1 he⟩
    rw [hrows] at hmem
    rcases List.mem_pair.1 hmem with he | he <;> cases he
    · exact hne rfl
    · exact absurd halike (by decide +kernel)
  rw [versions, ht, Option.map_some, Option.getD_some, Table.versions,
    List.filter_eq_nil_iff.2 hother, List.filterMap_nil]

/-- Names that are like others. -/
def alikes : List Action :=
  [.insert (.create "Key" [1]), .insert (.create "key\x00a" [1]), .insert (.create "\ufffe" [1])]

/-- The record of each of them as it is read. -/
def alikeRecord (name : String) (id : Int) : Record :=
  { Draft.create name [1] with id, createRevision := id }

/-- The name of a key that has no record brings up the records of others that are like it. -/
theorem answers_otherNames : inMemory.IsEmpty ∧
    (∀ c ∈ "key".toList ++ "\uffff".toList, c ≠ '%' ∧ c ≠ '_' ∧ c ≠ '\x00') ∧
    (inMemory.actAll alikes).versions "key" = [] ∧
    recordsOf ((inMemory.actAll alikes).after "key" 0 0) =
      .ok [alikeRecord "Key" 1, alikeRecord "key\x00a" 2] ∧
    recordsOf ((inMemory.actAll alikes).list "key" "" 0 1 false) = .ok [alikeRecord "Key" 1] ∧
    recordsOf ((inMemory.actAll alikes).listCurrent "key" "a" 0 false) =
      .ok [alikeRecord "key\x00a" 2] ∧
    recordsOf ((inMemory.actAll alikes).listCurrent "\uffff" "" 0 false) =
      .ok [alikeRecord "\ufffe" 3] := by
  refine ⟨isEmpty_inMemory, by simp, ?_⟩
  rw [inMemory_eq]
  decide +kernel

end Store

end RevisionLog
