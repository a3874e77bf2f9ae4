import RevisionLog.Engine.Pattern

/-!
# How patterns match

A match keeps a table with an entry for every suffix of the subject (`Pattern.onSuffixes_cons`).
What it answers is the plain recursion over pattern and subject (`Pattern.accepts_cons`): `%`
matches nothing, or one character and then what it matches behind it; anything else matches one
character that agrees with it.

So a pattern without wildcards matches what it is like (`Cell.isLike_literal`), and that is not only
itself: ASCII letters are alike in either case, U+FFFE and U+FFFF are like U+FFFD, and text ends at
its first U+0000 (`Pattern.likeness`).
-/

namespace RevisionLog

namespace Pattern

theorem onSuffixes_ne_nil (p cs : List Nat) : onSuffixes p cs ≠ [] := by
  induction p with
  | nil => simp [onSuffixes]
  | cons q p ih =>
    obtain ⟨b, bs, he⟩ := List.exists_cons_of_ne_nil ih
    rw [onSuffixes]
    split
    · simp [he, orLater]
    · simp

/-- The table begins with the answer. -/
theorem onSuffixes_eq (p cs : List Nat) :
    onSuffixes p cs = accepts p cs :: (onSuffixes p cs).tail := by
  obtain ⟨b, bs, he⟩ := List.exists_cons_of_ne_nil (onSuffixes_ne_nil p cs)
  simp [accepts, he]

/-- The rest of the table is the table for the rest of the subject. -/
theorem onSuffixes_cons (p : List Nat) (c : Nat) (cs : List Nat) :
    onSuffixes p (c :: cs) = accepts p (c :: cs) :: onSuffixes p cs := by
  suffices (onSuffixes p (c :: cs)).tail = onSuffixes p cs by
    rw [onSuffixes_eq, this]
  induction p with
  | nil => rfl
  | cons q p ih =>
    rw [onSuffixes, onSuffixes, onSuffixes_eq p (c :: cs), ih]
    split
    · rfl
    · rw [onSuffixes_eq p cs]
      rfl

theorem onSuffixes_nil (p : List Nat) : onSuffixes p [] = [accepts p []] := by
  suffices (onSuffixes p []).tail = [] by
    rw [onSuffixes_eq, this]
  induction p with
  | nil => rfl
  | cons q p ih =>
    rw [onSuffixes, onSuffixes_eq p [], ih]
    split <;> rfl

theorem accepts_nil (cs : List Nat) : accepts [] cs = cs.isEmpty := by
  cases cs <;> rfl

theorem accepts_cons_nil (q : Nat) (p : List Nat) :
    accepts (q :: p) [] = (q == anyRun && accepts p []) := by
  rw [accepts, onSuffixes, onSuffixes_nil]
  split <;> simp [orLater, *]

/-- One character more of the pattern and of the subject. -/
theorem accepts_cons (q c : Nat) (p cs : List Nat) :
    accepts (q :: p) (c :: cs) =
      if q == anyRun then accepts p (c :: cs) || accepts (q :: p) cs
      else matchesOne q c && accepts p cs := by
  rw [accepts, onSuffixes, onSuffixes_cons]
  by_cases hq : (q == anyRun) = true
  · have hrest : accepts (q :: p) cs = (orLater (onSuffixes p cs)).headD false := by
      rw [accepts, onSuffixes, if_pos hq]
    rw [if_pos hq, if_pos hq, hrest]
    rfl
  · rw [if_neg hq, if_neg hq, List.tail_cons, onSuffixes_eq p cs]
    rfl

/-- A pattern that is nothing but `%` matches everything. -/
theorem accepts_anyRuns (n : Nat) (cs : List Nat) :
    accepts (List.replicate (n + 1) anyRun) cs = true := by
  induction n generalizing cs with
  | zero =>
    show accepts [anyRun] cs = true
    induction cs with
    | nil => rfl
    | cons c cs ih => simp [accepts_cons, ih]
  | succ n ih =>
    rw [List.replicate_succ]
    cases cs with
    | nil => simp [accepts_cons_nil, ih]
    | cons c cs => simp [accepts_cons, ih]

/-! ## Patterns without wildcards -/

theorem accepts_literal {p : List Nat} (hp : ∀ q ∈ p, q ≠ anyRun ∧ q ≠ anyOne) (cs : List Nat) :
    accepts p cs = true ↔ p.map folded = cs.map folded := by
  induction p generalizing cs with
  | nil => cases cs <;> simp [accepts_nil]
  | cons q p ih =>
    obtain ⟨hrun, hone⟩ := hp q (.head _)
    cases cs with
    | nil => simp [accepts_cons_nil, hrun]
    | cons c cs =>
      rw [accepts_cons, if_neg (by simpa using hrun)]
      simp [matchesOne, hone, ih fun q hq => hp q (.tail _ hq)]

/-- A character without what a match does not tell apart. -/
def letter (c : Char) : Char := if c = '\ufffe' ∨ c = '\uffff' then '\ufffd' else c.toLower

/-- Text without what a match does not tell apart. -/
def likeness (s : String) : List Char := (s.toList.takeWhile (· != '\x00')).map letter

theorem folded_toNat (c : Char) : folded c.toNat = c.toLower.toNat := by
  have hrange : 'A'.toNat ≤ c.toNat ∧ c.toNat ≤ 'Z'.toNat ↔ c.val ≥ 'A'.val ∧ c.val ≤ 'Z'.val :=
    .rfl
  unfold folded Char.toLower
  by_cases h : c.val ≥ 'A'.val ∧ c.val ≤ 'Z'.val
  · have hle : c.toNat ≤ 90 := h.2
    have hadd : (c.val + ('a'.val - 'A'.val)).toNat = c.toNat + 32 := by
      -- the sum does not leave the 32 bits of a character
      show (c.toNat + 32) % 4294967296 = c.toNat + 32
      omega
    rw [dif_pos h, if_pos (by simpa using hrange.2 h)]
    exact hadd.symm
  · rw [dif_neg h, if_neg fun hc => h (hrange.1 (by simpa using hc))]

theorem map_folded_codes (s : String) : (codes s).map folded = (likeness s).map Char.toNat := by
  simp only [codes, likeness, List.map_map]
  refine List.map_congr_left fun c _ => ?_
  by_cases hc : c = '\ufffe' ∨ c = '\uffff'
  · rcases hc with rfl | rfl <;> rfl
  · simpa [letter, hc, not_or.1 hc] using folded_toNat c

end Pattern

/-- A pattern without wildcards matches exactly the text that is like it. -/
theorem Cell.isLike_literal {pattern : String} (hp : ∀ c ∈ pattern.toList, c ≠ '%' ∧ c ≠ '_')
    (s : String) :
    (Cell.text s).isLike pattern = true ↔ Pattern.likeness s = Pattern.likeness pattern := by
  have hcodes : ∀ q ∈ Pattern.codes pattern, q ≠ Pattern.anyRun ∧ q ≠ Pattern.anyOne := by
    intro q hq
    obtain ⟨c, hc, rfl⟩ := List.mem_map.1 hq
    obtain ⟨hrun, hone⟩ := hp c (List.takeWhile_subset _ hc)
    split
    · exact ⟨by decide, by decide⟩
    · exact ⟨fun he => hrun (Char.toNat_inj.1 he), fun he => hone (Char.toNat_inj.1 he)⟩
  show Pattern.accepts (Pattern.codes pattern) (Pattern.codes s) = true ↔ _
  rw [Pattern.accepts_literal hcodes, Pattern.map_folded_codes, Pattern.map_folded_codes,
    List.map_inj_right fun _ _ => Char.toNat_inj.1]
  exact eq_comm

end RevisionLog
