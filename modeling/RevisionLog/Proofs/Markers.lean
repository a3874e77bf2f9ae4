import RevisionLog.Statement.Placeholder

/-!
# Markers of a statement

A statement is in quotes or not at each of its characters (`Placeholder.quotedAfter`), and each `?`
outside quotes is a marker (`Placeholder.markers`). Where no quote is left open the markers cut the
statement into pieces, and numbering puts the numbered markers between the same pieces
(`Placeholder.numberFrom_pieces`). It leaves what stands in quotes
(`Placeholder.literals_numberFrom`). `Placeholder.Renders` says both of a statement in an engine's
form.
-/

namespace RevisionLog

namespace Placeholder

/-- Whether the end of a text is in quotes; `quoted` tells it of the beginning. -/
def quotedAfter : Bool → List Char → Bool
  | quoted, [] => quoted
  | quoted, c :: cs => if c == '\'' then quotedAfter (!quoted) cs else quotedAfter quoted cs

/-- How many `?` of a text are outside quotes. -/
def markers : Bool → List Char → Nat
  | _, [] => 0
  | quoted, c :: cs =>
    if c == '\'' then markers (!quoted) cs
    else if c == '?' && !quoted then markers quoted cs + 1
    else markers quoted cs

/-- The texts in quotes, in order; `inside` is what has been read of one that is not at its end. -/
def literals : Option (List Char) → List Char → List (List Char)
  | none, [] => []
  | some text, [] => [text]
  | none, c :: cs => if c == '\'' then literals (some []) cs else literals none cs
  | some text, c :: cs =>
    if c == '\'' then text :: literals none cs else literals (some (text ++ [c])) cs

/-- Every quote of the statement is closed, and `n` markers are outside quotes. -/
structure Takes (sql : String) (n : Nat) : Prop where
  closed : quotedAfter false sql.toList = false
  markers : markers false sql.toList = n

/-- `rendered` is `generic` with its `n` markers numbered from left to right, and nothing else
changed: the pieces between the markers, which have no marker of their own, are the same, and so are
the texts in quotes. -/
structure Renders (lead : String) (n : Nat) (generic rendered : String) : Prop where
  pieces : ∃ (first : List Char) (rest : List (List Char)), rest.length = n ∧
    (∀ piece ∈ first :: rest, Placeholder.markers false piece = 0 ∧
      quotedAfter false piece = false) ∧
    generic.toList = first ++ rest.flatMap ('?' :: ·) ∧
    rendered.toList =
      first ++ (rest.zipIdx 1).flatMap fun (piece, i) => marker lead.toList i ++ piece
  literals : Placeholder.literals none rendered.toList = Placeholder.literals none generic.toList

variable {lead cs : List Char} {quoted : Bool} {n : Nat}

/-! ## Texts one after another -/

theorem quotedAfter_append (quoted : Bool) (cs ds : List Char) :
    quotedAfter quoted (cs ++ ds) = quotedAfter (quotedAfter quoted cs) ds := by
  induction cs generalizing quoted with
  | nil => rfl
  | cons c cs ih =>
    simp only [List.cons_append, quotedAfter]
    split <;> exact ih _

theorem markers_append (quoted : Bool) (cs ds : List Char) :
    markers quoted (cs ++ ds) = markers quoted cs + markers (quotedAfter quoted cs) ds := by
  induction cs generalizing quoted with
  | nil => simp [markers, quotedAfter]
  | cons c cs ih =>
    simp only [List.cons_append, markers, quotedAfter]
    split
    · exact ih _
    · split
      · rw [ih]
        omega
      · exact ih _

theorem numberFrom_append (lead : List Char) (quoted : Bool) (n : Nat) (cs ds : List Char) :
    numberFrom lead quoted n (cs ++ ds) =
      numberFrom lead quoted n cs ++
        numberFrom lead (quotedAfter quoted cs) (n + markers quoted cs) ds := by
  induction cs generalizing quoted n with
  | nil => rfl
  | cons c cs ih =>
    simp only [List.cons_append, numberFrom, markers, quotedAfter]
    split
    · rw [ih, List.cons_append]
    · split
      · rw [ih, List.append_assoc, Nat.add_assoc, Nat.add_comm 1]
      · rw [ih, List.cons_append]

theorem numberFrom_of_markers (h : markers quoted cs = 0) : numberFrom lead quoted n cs = cs := by
  induction cs generalizing quoted with
  | nil => rfl
  | cons c cs ih =>
    simp only [markers, numberFrom] at h ⊢
    split at h
    · rename_i hc
      rw [if_pos hc, ih h]
    · rename_i hc
      split at h
      · cases h
      · rename_i hm
        rw [if_neg hc, if_neg hm, ih h]

/-- A text without quotes and `?` leaves quotes as they are, and has no marker. -/
theorem plain_of_not_mem (hquote : '\'' ∉ cs) (hmark : '?' ∉ cs) (quoted : Bool) :
    quotedAfter quoted cs = quoted ∧ markers quoted cs = 0 := by
  induction cs with
  | nil => exact ⟨rfl, rfl⟩
  | cons c cs ih =>
    simp only [List.mem_cons, not_or] at hquote hmark
    simpa [quotedAfter, markers, Ne.symm hquote.1, Ne.symm hmark.1] using ih hquote.2 hmark.2

/-! ## Numbering -/

/-- Numbering puts the numbered markers where the markers were, between the pieces of the text. -/
theorem numberFrom_pieces (lead : List Char) (h : quotedAfter quoted cs = false) :
    ∃ (first : List Char) (rest : List (List Char)), rest.length = markers quoted cs ∧
      (markers quoted first = 0 ∧ quotedAfter quoted first = false) ∧
      (∀ piece ∈ rest, markers false piece = 0 ∧ quotedAfter false piece = false) ∧
      cs = first ++ rest.flatMap ('?' :: ·) ∧
      numberFrom lead quoted n cs =
        first ++ (rest.zipIdx n).flatMap fun (piece, i) => marker lead i ++ piece := by
  -- a character goes to the front of the first piece, and a marker puts an empty one before it
  induction cs generalizing quoted n with
  | nil => exact ⟨[], [], rfl, ⟨rfl, h⟩, by simp, rfl, rfl⟩
  | cons c cs ih =>
    by_cases hquote : c = '\''
    · subst hquote
      obtain ⟨first, rest, hlength, hfirst, hrest, hcs, hnumbered⟩ :=
        ih (n := n) (by simpa [quotedAfter] using h : quotedAfter (!quoted) cs = false)
      refine ⟨'\'' :: first, rest, by simpa [markers] using hlength,
        by simpa [markers, quotedAfter] using hfirst, hrest, by rw [List.cons_append, ← hcs], ?_⟩
      simp [numberFrom, hnumbered]
    · by_cases hmark : c = '?' ∧ quoted = false
      · obtain ⟨rfl, rfl⟩ := hmark
        obtain ⟨first, rest, hlength, hfirst, hrest, hcs, hnumbered⟩ :=
          ih (n := n + 1) (by simpa [quotedAfter] using h : quotedAfter false cs = false)
        -- the text from the marker to the next one is the first of the pieces behind it
        refine ⟨[], first :: rest, by simp [markers, hlength], ⟨rfl, rfl⟩,
          List.forall_mem_cons.2 ⟨hfirst, hrest⟩, ?_, ?_⟩
        · simpa using hcs
        · simp [numberFrom, hnumbered]
      · have hm : ¬ (c == '?' && !quoted) = true := by simpa using hmark
        obtain ⟨first, rest, hlength, hfirst, hrest, hcs, hnumbered⟩ :=
          ih (n := n) (by simpa [quotedAfter, hquote] using h : quotedAfter quoted cs = false)
        refine ⟨c :: first, rest, ?_, ?_, hrest, by rw [List.cons_append, ← hcs], ?_⟩
        · simpa only [markers, beq_iff_eq, hquote, if_false, if_neg hm] using hlength
        · simpa only [markers, quotedAfter, beq_iff_eq, hquote, if_false, if_neg hm] using hfirst
        · simp only [numberFrom, beq_iff_eq, hquote, if_false, if_neg hm, hnumbered,
            List.cons_append]

theorem not_mem_marker (hlead : '\'' ∉ lead) (n : Nat) : '\'' ∉ marker lead n := by
  rw [marker, List.mem_append, not_or]
  refine ⟨hlead, fun hmem => ?_⟩
  have := Nat.isDigit_of_mem_toDigits (by decide) (by decide) hmem
  revert this
  decide

theorem literals_append_of_not_mem {cs ds : List Char} (h : '\'' ∉ cs) :
    literals none (cs ++ ds) = literals none ds := by
  induction cs with
  | nil => rfl
  | cons c cs ih =>
    simp only [List.mem_cons, not_or] at h
    simpa [literals, Ne.symm h.1] using ih h.2

/-- Numbering leaves what stands in quotes. -/
theorem literals_numberFrom (hlead : '\'' ∉ lead) (inside : Option (List Char)) (n : Nat)
    (cs : List Char) :
    literals inside (numberFrom lead inside.isSome n cs) = literals inside cs := by
  induction cs generalizing inside n with
  | nil => cases inside <;> rfl
  | cons c cs ih =>
    by_cases hquote : c = '\''
    · subst hquote
      cases inside with
      | none => simpa [numberFrom, literals] using ih (some []) n
      | some text => simpa [numberFrom, literals] using ih none n
    · cases inside with
      | none =>
        by_cases hmark : c = '?'
        · subst hmark
          simpa [numberFrom, literals, literals_append_of_not_mem (not_mem_marker hlead n)] using
            ih none (n + 1)
        · simpa [numberFrom, literals, hquote, hmark] using ih none n
      | some text => simpa [numberFrom, literals, hquote] using ih (some (text ++ [c])) n

/-! ## Statements -/

theorem Takes.append {a b : String} {m n : Nat} (ha : Takes a m) (hb : Takes b n) :
    Takes (a ++ b) (m + n) where
  closed := by rw [String.toList_append, quotedAfter_append, ha.closed, hb.closed]
  markers := by rw [String.toList_append, markers_append, ha.closed, ha.markers, hb.markers]

theorem apply_toList (lead sql : String) :
    ((numbered lead).apply sql).toList = numberFrom lead.toList false 1 sql.toList := by
  rw [apply, String.toList_ofList]

/-- The engine's form of a statement whose quotes are closed. -/
theorem Takes.renders {lead sql : String} {n : Nat} (h : Takes sql n)
    (hlead : '\'' ∉ lead.toList) : Renders lead n sql ((numbered lead).apply sql) where
  pieces := by
    obtain ⟨first, rest, hlength, hfirst, hrest, hsql, hnumbered⟩ :=
      numberFrom_pieces (n := 1) lead.toList h.closed
    exact ⟨first, rest, hlength.trans h.markers, List.forall_mem_cons.2 ⟨hfirst, hrest⟩, hsql,
      (apply_toList lead sql).trans hnumbered⟩
  literals := by
    rw [apply_toList]
    exact literals_numberFrom hlead none 1 sql.toList

/-- Numbering goes on behind a statement where it has ended there. -/
theorem Takes.apply_append {a : String} {m : Nat} (ha : Takes a m) (lead b : String) :
    (numbered lead).apply (a ++ b) =
      (numbered lead).apply a ++ String.ofList (numberFrom lead.toList false (1 + m) b.toList) := by
  apply String.toList_inj.1
  rw [String.toList_append, apply_toList, apply_toList, String.toList_append, numberFrom_append,
    ha.closed, ha.markers, String.toList_ofList]

theorem Takes.apply_append_plain {a b : String} {m : Nat} (ha : Takes a m) (hb : Takes b 0)
    (lead : String) :
    (numbered lead).apply (a ++ b) = (numbered lead).apply a ++ b := by
  rw [ha.apply_append, numberFrom_of_markers hb.markers, String.ofList_toList]

theorem Takes.apply_plain {sql : String} (h : Takes sql 0) (lead : String) :
    (numbered lead).apply sql = sql := by
  rw [apply, numberFrom_of_markers h.markers, String.ofList_toList]

/-! ## Texts that are put together -/

/-- The text is put together from texts with these characters. Evaluation goes over the characters,
since it is slow to take a long text apart. -/
inductive Spells : String → List Char → Prop
  | literal (cs : List Char) : Spells (String.ofList cs) cs
  | append {a b : String} {cs ds : List Char} : Spells a cs → Spells b ds →
    Spells (a ++ b) (cs ++ ds)

theorem Spells.toList {sql : String} {cs : List Char} (h : Spells sql cs) : sql.toList = cs := by
  induction h with
  | literal cs => exact String.toList_ofList
  | append _ _ ha hb => rw [String.toList_append, ha, hb]

theorem Spells.takes {sql : String} {cs : List Char} {n : Nat} (h : Spells sql cs)
    (hcs : (quotedAfter false cs, Placeholder.markers false cs) = (false, n)) : Takes sql n := by
  rw [Prod.mk.injEq] at hcs
  exact ⟨by rw [h.toList, hcs.1], by rw [h.toList, hcs.2]⟩

end Placeholder

end RevisionLog
