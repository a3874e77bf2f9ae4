import RevisionLog.Proofs.Markers
import RevisionLog.Statement.Template

/-!
# The parameters of the statements

A flavor puts text of its own into the statements of the log. Where that text closes its quotes and
has the markers that the statements count on (`Flavor.Fits`), each statement takes its documented
parameters (`Templates.parameters`), whatever the text is otherwise. The markers of a statement are
counted from its parts, some of which stand in it within others (`Templates.takes_generic`). So
every numbered statement is the one with bare markers, where these are numbered from left to right:
`Templates.build_renders`.
-/

namespace RevisionLog

open Placeholder

/-- What the flavor adds to the statements closes its quotes. It has one marker for the cursor, none
where no table is read, and `extra` for the new id. -/
structure Flavor.Fits (f : Flavor) (extra : Nat) : Prop where
  nameFloor : Takes f.nameFloor 1
  scalarFrom : Takes f.scalarFrom 0
  returning : Takes f.returning extra

/-- The flavor with bare markers. -/
def Flavor.generic (f : Flavor) : Flavor := { f with placeholder := .positional }

/-- The cap on the rows has no marker. -/
theorem LimitStyle.takes_clause (style : LimitStyle) (limit : Int) :
    Takes (style.clause limit) 0 := by
  unfold clause
  split
  · exact (Spells.literal _).takes rfl
  · rename_i hpos
    obtain ⟨n, rfl⟩ := Int.eq_ofNat_of_zero_le (Int.le_of_lt (Int.not_le.1 hpos))
    have hdigits : Takes (toString (n : Int)) 0 := by
      have htext : (toString (n : Int)).toList = Nat.toDigits 10 n := Nat.toList_repr
      have hdigit : ∀ c ∈ (toString (n : Int)).toList, c.isDigit = true := fun c hc =>
        Nat.isDigit_of_mem_toDigits (by decide) (by decide) (htext ▸ hc)
      obtain ⟨hclosed, hmarkers⟩ := plain_of_not_mem
        (fun h => absurd (hdigit _ h) (by decide)) (fun h => absurd (hdigit _ h) (by decide)) false
      exact ⟨hclosed, hmarkers⟩
    cases style with
    | trailing =>
      have hlimit : Takes " LIMIT " 0 := (Spells.literal _).takes rfl
      exact hlimit.append hdigits
    | fetchFirst =>
      have hfirst : Takes " FETCH FIRST " 0 := (Spells.literal _).takes rfl
      have honly : Takes " ROWS ONLY" 0 := (Spells.literal _).takes rfl
      exact (hfirst.append hdigits).append honly

namespace Templates

/-- How many parameters each statement has, where the text after an insertion has `extra`. -/
def parameters (extra : Nat) : List ((Templates → String) × Nat) :=
  [(getRevision, 1), (getCurrent, 3), (listRevisionStart, 3), (getRevisionAfter, 4),
    (countCurrent, 3), (countRevision, 4), (after, 2), (delete, 1), (revision, 0),
    (compactRevision, 0), (insert, 8 + extra), (insertLastInsertId, 8), (setCompactRevision, 1),
    (compact, 3)]

/-! ## What the statements are put together from -/

/-- The texts that no flavor adds to. -/
theorem takes_fixed :
    Takes getSql 1 ∧ Takes afterSql 2 ∧ Takes deleteSql 1 ∧ Takes revisionSql 0 ∧
      Takes compactRevisionSql 0 ∧ Takes insertSql 8 ∧ Takes setCompactSql 1 ∧
      Takes compactSql 3 := by
  unfold getSql afterSql deleteSql insertSql setCompactSql compactSql revisionColumns revisionSql
    compactRevisionSql columns insertColumns tableName sentinelName
  refine ⟨?_, ?_, ?_, ?_, ?_, ?_, ?_, ?_⟩
  all_goals
    apply Spells.takes
    · repeat' first | with_reducible exact .literal _ | with_reducible apply Spells.append
    · decide +kernel

variable {f : Flavor} {extra n : Nat} {condition scalarFrom : String}

/-- A list has a parameter before its condition and one behind it. -/
theorem takes_listSql (h : Takes condition n) : Takes (listSql condition) (1 + n + 1) := by
  unfold listSql revisionColumns revisionSql compactRevisionSql columns tableName sentinelName
  refine .append (.append ?_ h) ?_
  all_goals
    apply Spells.takes
    · repeat' first | with_reducible exact .literal _ | with_reducible apply Spells.append
    · decide +kernel

/-- A count has the parameters of its list. -/
theorem takes_countSql (h : Takes condition n) (hfrom : Takes scalarFrom 0) :
    Takes (countSql condition scalarFrom) (1 + n + 1) := by
  have hparts : Takes (countSql condition scalarFrom) (0 + (1 + n + 1) + 0 + 0) := by
    unfold countSql revisionSql tableName
    refine .append (.append (.append ?_ (takes_listSql h)) ?_) hfrom
    all_goals
      apply Spells.takes
      · repeat' first | with_reducible exact .literal _ | with_reducible apply Spells.append
      · decide +kernel
  rwa [Nat.zero_add, Nat.add_zero, Nat.add_zero] at hparts

theorem takes_floorSql (hf : f.Fits extra) : Takes (floorSql f) 1 := by
  have hgreater : Takes "AND mkv.name > " 0 := (Spells.literal _).takes rfl
  exact hgreater.append hf.nameFloor

/-- With bare markers each statement takes its parameters. -/
theorem takes_generic (hf : f.Fits extra) :
    ∀ p ∈ parameters extra, Takes (p.1 (build f.generic)) p.2 := by
  obtain ⟨hget, hafter, hdelete, hrevision, hcompactRevision, hinsert, hset, hcompact⟩ :=
    takes_fixed
  have hceiling : Takes "AND mkv.id <= ?" 1 := (Spells.literal _).takes rfl
  have hboth : Takes "AND mkv.name > ? AND mkv.id <= ?" 2 := (Spells.literal _).takes rfl
  have hfurther : Takes " AND mkv.id <= ?" 1 := (Spells.literal _).takes rfl
  have hfloor := takes_floorSql hf
  simp only [parameters, List.forall_mem_cons, List.not_mem_nil, false_imp_iff, implies_true,
    and_true]
  exact ⟨hget, takes_listSql hfloor, takes_listSql hceiling, takes_listSql hboth,
    takes_countSql hfloor hf.scalarFrom, takes_countSql (hfloor.append hfurther) hf.scalarFrom,
    hafter, hdelete, hrevision, hcompactRevision, hinsert.append hf.returning, hinsert, hset,
    hcompact⟩

/-- The engine's form of each statement is made of the one with bare markers. -/
theorem build_eq_apply {lead : String} (hp : f.placeholder = .numbered lead) (extra : Nat) :
    ∀ p ∈ parameters extra,
      p.1 (build f) = (numbered lead).apply (p.1 (build f.generic)) := by
  obtain ⟨-, -, -, hrevision, hcompactRevision, -⟩ := takes_fixed
  simp only [parameters, List.forall_mem_cons, List.not_mem_nil, false_imp_iff, implies_true,
    and_true, build, hp]
  refine ⟨rfl, rfl, rfl, rfl, rfl, rfl, rfl, rfl, ?_, ?_, rfl, rfl, rfl, rfl⟩
  · exact (hrevision.apply_plain lead).symm
  · exact (hcompactRevision.apply_plain lead).symm

/-- Each statement of a flavor with numbered markers is the one with bare markers, where these are
numbered from left to right, as many as the statement has parameters, and nothing in quotes is
changed. The cap on the rows is put behind, and has no markers. The insertion that answers the new
id begins with the one that does not. -/
theorem build_renders {lead : String} (hp : f.placeholder = .numbered lead)
    (hlead : '\'' ∉ lead.toList) (hf : f.Fits extra) :
    (∀ p ∈ parameters extra, Renders lead p.2 (p.1 (build f.generic)) (p.1 (build f)) ∧
      ∀ limit,
        Renders lead p.2 ((build f.generic).limited (p.1 (build f.generic)) limit)
          ((build f).limited (p.1 (build f)) limit) ∧
        ∃ clause, Takes clause 0 ∧
          (build f).limited (p.1 (build f)) limit = p.1 (build f) ++ clause) ∧
    ∃ returning, (build f).insert = (build f).insertLastInsertId ++ returning := by
  refine ⟨fun p hmem => ?_, ?_⟩
  · have htakes := takes_generic hf p hmem
    rw [build_eq_apply hp extra p hmem]
    refine ⟨htakes.renders hlead, fun limit => ?_⟩
    have hclause := f.limit.takes_clause limit
    refine ⟨?_, f.limit.clause limit, hclause, rfl⟩
    have hlimited : (build f).limited ((numbered lead).apply (p.1 (build f.generic))) limit =
        (numbered lead).apply (p.1 (build f.generic) ++ f.limit.clause limit) :=
      (htakes.apply_append_plain hclause lead).symm
    rw [hlimited]
    exact (htakes.append hclause).renders hlead
  · obtain ⟨-, -, -, -, -, hinsert, -, -⟩ := takes_fixed
    have hform : (build f).insert = (numbered lead).apply (insertSql ++ f.returning) ∧
        (build f).insertLastInsertId = (numbered lead).apply insertSql := by
      simp only [build, hp, and_self]
    rw [hform.1, hform.2, hinsert.apply_append]
    exact ⟨_, rfl⟩

/-- A flavor with `?` in quotes, and two markers behind an insertion. -/
def quoting : Flavor where
  placeholder := .numbered "$"
  limit := .fetchFirst
  nameFloor := "COALESCE(?, 'none?')"
  scalarFrom := " FROM dual AS 'd?'"
  returning := " RETURNING id INTO ?, ?"

/-- The markers of each statement are numbered, and what is in quotes is not. -/
theorem build_renders_quoting :
    ('\'' ∉ "$".toList ∧ quoting.Fits 2) ∧
    Renders "$" 4 (build quoting.generic).countRevision (build quoting).countRevision ∧
    Renders "$" 10 (build quoting.generic).insert (build quoting).insert ∧
    floorSql quoting = "AND mkv.name > COALESCE(?, 'none?')" ∧
    (numbered "$").apply (floorSql quoting) = "AND mkv.name > COALESCE($1, 'none?')" := by
  have hlead : '\'' ∉ "$".toList := by decide +kernel
  have hfits : quoting.Fits 2 :=
    ⟨(Spells.literal _).takes rfl, (Spells.literal _).takes rfl, (Spells.literal _).takes rfl⟩
  obtain ⟨hrenders, -⟩ := build_renders rfl hlead hfits
  refine ⟨⟨hlead, hfits⟩, (hrenders (countRevision, 4) ?_).1, (hrenders (insert, 10) ?_).1,
    by decide +kernel, by decide +kernel⟩
  · exact .tail _ (.tail _ (.tail _ (.tail _ (.tail _ (.head _)))))
  · simp [parameters]

end Templates

end RevisionLog
