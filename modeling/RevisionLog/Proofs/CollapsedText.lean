import RevisionLog.Text.Blank
import Mathlib.Data.List.Chain

/-!
# Collapsed texts

Splitting a text at its white space gives its words (`Text.pieces`), which are what the scanner
finds (`Text.words_eq_pieces`). Of the texts with the same words exactly one is collapsed: its white
space is single spaces between other characters (`Text.Collapsed`). `Text.collapse` turns every text
into that one (`Text.collapse_canonical`). All that it does follows from there, since white space
between two texts only puts their words one after another (`Text.pieces_append_blank_append`).
-/

namespace RevisionLog.Text

/-- What stands between the white space of a text, empty pieces left out. -/
def pieces (cs : List Char) : List (List Char) := (cs.splitOnP isBlank).filter (!·.isEmpty)

/-- At least one character, and no white space. -/
structure IsWord (w : List Char) : Prop where
  ne_nil : w ≠ []
  solid : ∀ c ∈ w, isBlank c = false

/-- No white space begins or ends the text or stands beside other white space, and all of it is
spaces. -/
structure Collapsed (cs : List Char) : Prop where
  opens : ∀ c ∈ cs.head?, isBlank c = false
  closes : ∀ c ∈ cs.getLast?, isBlank c = false
  single : cs.IsChain fun c d => isBlank c = false ∨ isBlank d = false
  space : ∀ c ∈ cs, isBlank c = true → c = ' '

variable {b c d : Char} {cs ds w : List Char} {ws : List (List Char)}

/-! ## The pieces of a text -/

@[simp] theorem pieces_nil : pieces [] = [] := by
  simp [pieces]

/-- White space separates the words on its two sides. -/
theorem pieces_append_cons (hb : isBlank b = true) (cs ds : List Char) :
    pieces (cs ++ b :: ds) = pieces cs ++ pieces ds := by
  rw [pieces, List.splitOnP_append_cons cs ds hb, List.filter_append, pieces, pieces]

theorem pieces_cons_of_isBlank (hb : isBlank b = true) (ds : List Char) :
    pieces (b :: ds) = pieces ds := by
  simpa using pieces_append_cons hb [] ds

theorem pieces_blank_append (hblank : ∀ c ∈ w, isBlank c = true) (ds : List Char) :
    pieces (w ++ ds) = pieces ds := by
  induction w with
  | nil => rfl
  | cons b w ih =>
    obtain ⟨hb, hw⟩ := List.forall_mem_cons.1 hblank
    rw [List.cons_append, pieces_cons_of_isBlank hb, ih hw]

/-- However much white space stands between two texts, it separates their words. -/
theorem pieces_append_blank_append (hne : w ≠ []) (hblank : ∀ c ∈ w, isBlank c = true)
    (cs ds : List Char) : pieces (cs ++ w ++ ds) = pieces cs ++ pieces ds := by
  obtain ⟨b, w, rfl⟩ := List.exists_cons_of_ne_nil hne
  obtain ⟨hb, hw⟩ := List.forall_mem_cons.1 hblank
  rw [List.append_assoc, List.cons_append, pieces_append_cons hb, pieces_blank_append hw]

theorem IsWord.pieces_eq (hw : IsWord w) : pieces w = [w] := by
  rw [pieces, List.splitOnP_eq_singleton hw.solid]
  simp [hw.ne_nil]

/-- A character in front of a word belongs to it. -/
theorem pieces_cons_cons (hc : isBlank c = false) (hd : isBlank d = false) (cs : List Char) :
    pieces (c :: d :: cs) = glue c (pieces (d :: cs)) := by
  obtain ⟨w, ws, hsplit⟩ := List.exists_cons_of_ne_nil (List.splitOnP_ne_nil isBlank cs)
  simp [pieces, List.splitOnP_cons_eq_if_modifyHead, hc, hd, hsplit, glue]

/-! ## The words that are found -/

theorem IsWord.single (hc : isBlank c = false) : IsWord [c] :=
  ⟨List.cons_ne_nil c [], List.forall_mem_singleton.2 hc⟩

theorem IsWord.cons (hc : isBlank c = false) (hw : IsWord w) : IsWord (c :: w) :=
  ⟨List.cons_ne_nil c w, List.forall_mem_cons.2 ⟨hc, hw.solid⟩⟩

theorem words_eq_pieces (cs : List Char) : words cs = pieces cs := by
  fun_induction words cs with
  | case1 => rw [pieces_nil]
  | case2 c cs hc ih => rw [ih, pieces_cons_of_isBlank hc]
  | case3 c hc => rw [(IsWord.single (Bool.of_not_eq_true hc)).pieces_eq]
  | case4 c hc d ds hd ih =>
    have happend := pieces_append_cons hd [c] ds
    rw [(IsWord.single (Bool.of_not_eq_true hc)).pieces_eq] at happend
    rw [ih, pieces_cons_of_isBlank hd]
    exact happend.symm
  | case5 c hc d ds hd ih =>
    rw [ih, pieces_cons_cons (Bool.of_not_eq_true hc) (Bool.of_not_eq_true hd)]

theorem isWord_of_mem_glue (hc : isBlank c = false) (hws : ∀ w ∈ ws, IsWord w) :
    ∀ w ∈ glue c ws, IsWord w := by
  cases ws with
  | nil => exact List.forall_mem_singleton.2 (.single hc)
  | cons v ws =>
    obtain ⟨hv, hws⟩ := List.forall_mem_cons.1 hws
    exact List.forall_mem_cons.2 ⟨hv.cons hc, hws⟩

theorem isWord_of_mem_words (cs : List Char) : ∀ w ∈ words cs, IsWord w := by
  fun_induction words cs with
  | case1 => simp
  | case2 c cs hc ih => exact ih
  | case3 c hc => exact List.forall_mem_singleton.2 (.single (Bool.of_not_eq_true hc))
  | case4 c hc d ds hd ih =>
    exact List.forall_mem_cons.2 ⟨.single (Bool.of_not_eq_true hc), ih⟩
  | case5 c hc d ds hd ih => exact isWord_of_mem_glue (Bool.of_not_eq_true hc) ih

theorem isWord_of_mem_pieces (cs : List Char) : ∀ w ∈ pieces cs, IsWord w := by
  rw [← words_eq_pieces]
  exact isWord_of_mem_words cs

@[simp] theorem flatten_glue (c : Char) (ws : List (List Char)) :
    (glue c ws).flatten = c :: ws.flatten := by
  cases ws <;> rfl

/-- The words have the characters of the text that are not white space, in order. -/
theorem flatten_words (cs : List Char) : (words cs).flatten = cs.filter (!isBlank ·) := by
  fun_induction words cs with
  | case1 => rfl
  | case2 c cs hc ih => simpa [hc] using ih
  | case3 c hc => simp [hc]
  | case4 c hc d ds hd ih => simpa [hc] using ih
  | case5 c hc d ds hd ih => simpa [hc] using ih

theorem flatten_pieces (cs : List Char) : (pieces cs).flatten = cs.filter (!isBlank ·) := by
  rw [← words_eq_pieces, flatten_words]

/-! ## Words with single spaces between them -/

theorem unwords_cons (hne : ws ≠ []) (w : List Char) :
    unwords (w :: ws) = w ++ ' ' :: unwords ws := by
  obtain ⟨v, vs, rfl⟩ := List.exists_cons_of_ne_nil hne
  rfl

@[simp] theorem unwords_glue (c : Char) (ws : List (List Char)) :
    unwords (glue c ws) = c :: unwords ws := by
  cases ws with
  | nil => rfl
  | cons w ws => cases ws <;> rfl

theorem pieces_unwords (hws : ∀ w ∈ ws, IsWord w) : pieces (unwords ws) = ws := by
  fun_induction unwords ws with
  | case1 => exact pieces_nil
  | case2 w => exact (List.forall_mem_singleton.1 hws).pieces_eq
  | case3 w v ws ih =>
    obtain ⟨hw, hws⟩ := List.forall_mem_cons.1 hws
    rw [pieces_append_cons (by decide), hw.pieces_eq, ih hws, List.singleton_append]

theorem Collapsed.of_isWord (hw : IsWord w) : Collapsed w where
  opens c hc := hw.solid c (List.mem_of_mem_head? hc)
  closes c hc := hw.solid c (List.mem_of_mem_getLast? hc)
  single := List.isChain_iff_getElem.2 fun i hi => .inl (hw.solid _ (List.getElem_mem _))
  space c hc hblank := by rw [hw.solid c hc] at hblank; cases hblank

/-- A word may be put before a collapsed text, with a space. -/
theorem Collapsed.word_append (hw : IsWord w) (hcs : Collapsed cs) (hne : cs ≠ []) :
    Collapsed (w ++ ' ' :: cs) := by
  have hword := Collapsed.of_isWord hw
  obtain ⟨c, cs, rfl⟩ := List.exists_cons_of_ne_nil hne
  have hc : isBlank c = false := hcs.opens c rfl
  obtain ⟨d, w, rfl⟩ := List.exists_cons_of_ne_nil hw.ne_nil
  exact {
    opens := hword.opens
    closes := by
      rw [List.getLast?_append_of_ne_nil _ (List.cons_ne_nil _ _), List.getLast?_cons_cons]
      exact hcs.closes
    single := by
      refine hword.single.append (.cons_cons (.inr hc) hcs.single) ?_
      exact fun x hx y _ => .inl (hword.closes x hx)
    space := by
      refine List.forall_mem_append.2 ⟨hword.space, List.forall_mem_cons.2 ⟨fun _ => rfl, ?_⟩⟩
      exact hcs.space }

theorem collapsed_unwords (hws : ∀ w ∈ ws, IsWord w) : Collapsed (unwords ws) := by
  fun_induction unwords ws with
  | case1 => exact ⟨by simp, by simp, .nil, by simp⟩
  | case2 w => exact .of_isWord (List.forall_mem_singleton.1 hws)
  | case3 w v ws ih =>
    obtain ⟨hw, hws⟩ := List.forall_mem_cons.1 hws
    refine (ih hws).word_append hw fun hnil => ?_
    have hpieces := pieces_unwords hws
    rw [hnil, pieces_nil] at hpieces
    cases hpieces

/-- A text that is collapsed but for a space at its beginning is that space and its words. -/
theorem takeWhile_append_unwords (hcloses : ∀ c ∈ cs.getLast?, isBlank c = false)
    (hsingle : cs.IsChain fun c d => isBlank c = false ∨ isBlank d = false)
    (hspace : ∀ c ∈ cs, isBlank c = true → c = ' ') :
    cs.takeWhile isBlank ++ unwords (words cs) = cs := by
  -- the space has to be allowed: the induction takes a word off, and a space is next
  fun_induction words cs with
  | case1 => rfl
  | case2 c cs hc ih =>
    have htail := ih (fun x hx => hcloses x (List.mem_getLast?_cons hx)) hsingle.tail
      (List.forall_mem_cons.1 hspace).2
    rw [List.takeWhile_cons_of_pos hc, List.cons_append, htail]
  | case3 c hc => simp [hc, unwords]
  | case4 c hc d ds hd ih =>
    have htail := ih hcloses hsingle.tail (List.forall_mem_cons.1 hspace).2
    obtain rfl : d = ' ' := hspace d (by simp) hd
    cases ds with
    | nil => exact absurd (hcloses ' ' rfl) (by decide)
    | cons e es =>
      have he : isBlank e = false := by simpa [hd] using hsingle.tail.rel
      have htake : (' ' :: e :: es).takeWhile isBlank = [' '] := by simp [hd, he]
      rw [htake, List.singleton_append] at htail
      have hne : words (' ' :: e :: es) ≠ [] := fun hnil => by simp [hnil, unwords] at htail
      rw [List.takeWhile_cons_of_neg hc, unwords_cons hne, htail, List.nil_append,
        List.singleton_append]
  | case5 c hc d ds hd ih =>
    have htail := ih hcloses hsingle.tail (List.forall_mem_cons.1 hspace).2
    rw [List.takeWhile_cons_of_neg hd, List.nil_append] at htail
    rw [List.takeWhile_cons_of_neg hc, List.nil_append, unwords_glue, htail]

theorem Collapsed.unwords_pieces (hcs : Collapsed cs) : unwords (pieces cs) = cs := by
  have heq := takeWhile_append_unwords hcs.closes hcs.single hcs.space
  have hnil : cs.takeWhile isBlank = [] := by
    cases cs with
    | nil => rfl
    | cons c cs => simp [hcs.opens c rfl]
  rwa [hnil, List.nil_append, words_eq_pieces] at heq

/-! ## Collapsing -/

variable {s t : String}

theorem collapse_toList (s : String) : (collapse s).toList = unwords (pieces s.toList) := by
  rw [collapse, String.toList_ofList, words_eq_pieces]

theorem collapsed_collapse (s : String) : Collapsed (collapse s).toList := by
  rw [collapse_toList]
  exact collapsed_unwords (isWord_of_mem_pieces s.toList)

theorem pieces_collapse (s : String) : pieces (collapse s).toList = pieces s.toList := by
  rw [collapse_toList, pieces_unwords (isWord_of_mem_pieces s.toList)]

/-- There is no other collapsed text with the same words. -/
theorem Collapsed.eq_collapse (ht : Collapsed t.toList)
    (hpieces : pieces t.toList = pieces s.toList) : t = collapse s := by
  apply String.toList_inj.1
  rw [collapse_toList, ← hpieces, ht.unwords_pieces]

theorem collapse_eq_iff : collapse s = collapse t ↔ pieces s.toList = pieces t.toList := by
  refine ⟨fun heq => ?_, fun hpieces => ?_⟩
  · rw [← pieces_collapse s, heq, pieces_collapse]
  · exact (collapsed_collapse s).eq_collapse ((pieces_collapse s).trans hpieces)

/-- Collapsing gives the one collapsed text with the words of a text, and keeps all characters that
are not white space. Twice is therefore once, what stands on the two sides of white space may be
collapsed first, and two texts become one iff they have the same words. -/
theorem collapse_canonical (s : String) :
    Collapsed (collapse s).toList ∧
    (collapse s).toList.filter (!isBlank ·) = s.toList.filter (!isBlank ·) ∧
    pieces (collapse s).toList = pieces s.toList ∧
    (∀ t : String, Collapsed t.toList → pieces t.toList = pieces s.toList → t = collapse s) ∧
    collapse (collapse s) = collapse s ∧
    (∀ w t : String, w ≠ "" → (∀ c ∈ w.toList, isBlank c = true) →
      collapse (s ++ w ++ t) = collapse (collapse s ++ w ++ collapse t)) ∧
    ∀ t : String, collapse s = collapse t ↔ pieces s.toList = pieces t.toList := by
  refine ⟨collapsed_collapse s, ?_, pieces_collapse s, fun t => Collapsed.eq_collapse,
    collapse_eq_iff.2 (pieces_collapse s), fun w t hne hblank => ?_, fun t => collapse_eq_iff⟩
  · rw [← flatten_pieces, pieces_collapse, flatten_pieces]
  · have hw : w.toList ≠ [] := by simpa using hne
    rw [collapse_eq_iff]
    simp only [String.toList_append, pieces_append_blank_append hw hblank, pieces_collapse]

/-- A statement broken into lines, with other kinds of white space in it. -/
def brokenStatement : String := "\u2003SELECT *\x0b\n   FROM\u00a0 t\x0d\n"

/-- A condition that is put behind it. -/
def condition : String := "\tWHERE \u2028 id = 1 "

theorem collapse_canonical_broken : "\u3000\n" ≠ "" ∧
    (∀ c ∈ "\u3000\n".toList, isBlank c = true) ∧
    Collapsed "SELECT * FROM t".toList ∧
    pieces "SELECT * FROM t".toList = pieces brokenStatement.toList ∧
    collapse brokenStatement = "SELECT * FROM t" ∧
    collapse (brokenStatement ++ "\u3000\n" ++ condition) =
      collapse ("SELECT * FROM t" ++ "\u3000\n" ++ collapse condition) := by
  have hcollapsed : Collapsed "SELECT * FROM t".toList :=
    ⟨by simp [isBlank], by simp [isBlank], by simp [isBlank], by simp [isBlank]⟩
  have hpieces : pieces "SELECT * FROM t".toList = pieces brokenStatement.toList := by
    simp only [brokenStatement, String.reduceToList]
    decide
  have hblank : ∀ c ∈ "\u3000\n".toList, isBlank c = true := by simp [isBlank]
  obtain ⟨-, -, -, honly, -, hjoin, -⟩ := collapse_canonical brokenStatement
  have heq := honly "SELECT * FROM t" hcollapsed hpieces
  refine ⟨by decide, hblank, hcollapsed, hpieces, heq.symm, ?_⟩
  rw [hjoin "\u3000\n" condition (by decide) hblank, ← heq]

end RevisionLog.Text
