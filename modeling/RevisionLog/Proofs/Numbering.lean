import RevisionLog.Proofs.Markers

/-!
# Numbered markers can be read back

Whether a character of a statement is in quotes is told by the quotes before it: it is if their
number is odd (`Placeholder.inQuotes`), whether or not a quote is doubled or left open. Numbering
keeps every character but the `?` outside quotes, in place and in or out of quotes as it was, and
puts the `n`th number in place of the `n`th of these (`Placeholder.Numbers`).

With a lead of one character the numbered markers can be found again, each the lead outside quotes
with all digits behind it (`Placeholder.numbersIn`), and made bare again (`Placeholder.restore`), if
the statement has the lead nowhere else and no digit behind a marker (`Placeholder.Readable`). So
nothing is lost: `Placeholder.numbering_restored`.
-/

namespace RevisionLog

namespace Placeholder

/-- What comes behind the text is in quotes: an odd number of quotes is before it. -/
def inQuotes (before : List Char) : Bool := before.count '\'' % 2 == 1

/-- A part of a statement: a character that numbering keeps, or a marker. -/
inductive Part
  | kept (c : Char)
  | marker

/-- The part as it stands in the statement. -/
def Part.char : Part → Char
  | kept c => c
  | marker => '?'

/-- The parts with the markers numbered from `n` on. -/
def written (lead : List Char) : Nat → List Part → List Char
  | _, [] => []
  | n, .kept c :: parts => c :: written lead n parts
  | n, .marker :: parts => marker lead n ++ written lead (n + 1) parts

/-- `rewritten` is the statement with the markers outside quotes numbered from left to right, and
all other characters in their places, in quotes if they were. -/
def Numbers (lead sql rewritten : String) : Prop :=
  ∃ parts : List Part, sql.toList = parts.map Part.char ∧
    rewritten.toList = written lead.toList 1 parts ∧
    ∀ before part after, parts = before ++ part :: after →
      (part = .marker ↔ part.char = '?' ∧ inQuotes (before.map Part.char) = false) ∧
        inQuotes (written lead.toList 1 before) = inQuotes (before.map Part.char)

/-- The digits of each numbered marker: the lead outside quotes, and all the digits behind it. -/
def numbersIn (lead : Char) : Bool → List Char → List (List Char)
  | _, [] => []
  | quoted, c :: cs =>
    if c == '\'' then numbersIn lead (!quoted) cs
    else if c == lead && !quoted then cs.takeWhile Char.isDigit :: numbersIn lead quoted cs
    else numbersIn lead quoted cs

/-- Makes the numbered markers bare; `behind` tells that only digits of one are between it and the
text. -/
def restoreFrom (lead : Char) : Bool → Bool → List Char → List Char
  | _, _, [] => []
  | quoted, behind, c :: cs =>
    if behind && c.isDigit then restoreFrom lead quoted true cs
    else if c == '\'' then c :: restoreFrom lead (!quoted) false cs
    else if c == lead && !quoted then '?' :: restoreFrom lead quoted true cs
    else c :: restoreFrom lead quoted false cs

/-- The statement with its numbered markers made bare. -/
def restore (lead : Char) (sql : String) : String :=
  String.ofList (restoreFrom lead false false sql.toList)

/-- Numbered markers with this lead can be told from the rest of the statement: the lead is no digit
and no quote, outside quotes it is in no place but that of a marker, and no digit is directly behind
a marker. -/
structure Readable (lead : Char) (sql : String) : Prop where
  notDigit : lead.isDigit = false
  notQuote : lead ≠ '\''
  own : lead = '?' ∨
    ∀ before after, sql.toList = before ++ lead :: after → inQuotes before = true
  apart : ∀ before c after, sql.toList = before ++ '?' :: c :: after → inQuotes before = false →
    c.isDigit = false

variable {lead cs : List Char} {p : Char} {quoted behind : Bool} {n : Nat}

/-! ## Quotes -/

theorem quotedAfter_eq (quoted : Bool) (cs : List Char) :
    quotedAfter quoted cs = (quoted ^^ inQuotes cs) := by
  induction cs generalizing quoted with
  | nil => cases quoted <;> rfl
  | cons c cs ih =>
    rw [quotedAfter, ih, ih, inQuotes, inQuotes, List.count_cons]
    by_cases hc : c = '\''
    · have hparity : ((cs.count '\'' + 1) % 2 == 1) = !(cs.count '\'' % 2 == 1) := by
        rcases Nat.mod_two_eq_zero_or_one (cs.count '\'') with h | h <;> simp [Nat.add_mod, h]
      simp [hc, hparity]
    · simp [hc]

theorem inQuotes_eq (cs : List Char) : inQuotes cs = quotedAfter false cs := by
  rw [quotedAfter_eq, Bool.false_xor]

theorem quotedAfter_cons (quoted : Bool) (c : Char) (cs : List Char) :
    quotedAfter quoted (c :: cs) = quotedAfter (quoted ^^ c == '\'') cs := by
  rw [quotedAfter]
  cases hc : c == '\'' <;> simp

/-! ## Parts -/

/-- The part that a character is. -/
def partOf (quoted : Bool) (c : Char) : Part := if c == '?' && !quoted then .marker else .kept c

/-- The parts of a text. -/
def partsFrom : Bool → List Char → List Part
  | _, [] => []
  | quoted, c :: cs => partOf quoted c :: partsFrom (quoted ^^ c == '\'') cs

@[simp] theorem char_partOf (quoted : Bool) (c : Char) : (partOf quoted c).char = c := by
  unfold partOf
  split
  · rename_i hmark
    rw [Bool.and_eq_true, beq_iff_eq] at hmark
    exact hmark.1.symm
  · rfl

theorem partOf_eq_marker {c : Char} : partOf quoted c = .marker ↔ c = '?' ∧ quoted = false := by
  unfold partOf
  split <;> simp_all

theorem map_partsFrom (quoted : Bool) (cs : List Char) :
    (partsFrom quoted cs).map Part.char = cs := by
  induction cs generalizing quoted with
  | nil => rfl
  | cons c cs ih => rw [partsFrom, List.map_cons, ih, char_partOf]

theorem written_partsFrom (lead : List Char) (quoted : Bool) (n : Nat) (cs : List Char) :
    written lead n (partsFrom quoted cs) = numberFrom lead quoted n cs := by
  induction cs generalizing quoted n with
  | nil => rfl
  | cons c cs ih =>
    rw [partsFrom, numberFrom, partOf]
    by_cases hquote : c = '\''
    · subst hquote
      simp [written, ih]
    · have hq : (c == '\'') = false := beq_false_of_ne hquote
      rw [hq, Bool.xor_false, if_neg Bool.false_ne_true]
      split
      · rw [written, ih]
      · rw [written, ih]

theorem marker_iff {before after : List Part} {part : Part}
    (h : partsFrom quoted cs = before ++ part :: after) :
    part = .marker ↔ part.char = '?' ∧ quotedAfter quoted (before.map Part.char) = false := by
  induction before generalizing quoted cs with
  | nil =>
    cases cs with
    | nil => cases h
    | cons c cs =>
      obtain ⟨rfl, -⟩ := List.cons.inj h
      rw [char_partOf]
      exact partOf_eq_marker
  | cons first before ih =>
    cases cs with
    | nil => cases h
    | cons c cs =>
      obtain ⟨rfl, hrest⟩ := List.cons.inj h
      rw [List.map_cons, char_partOf, quotedAfter_cons]
      exact ih hrest

/-- Numbers leave quotes as they are. -/
theorem quotedAfter_written (hlead : '\'' ∉ lead) (quoted : Bool) (n : Nat) (parts : List Part) :
    quotedAfter quoted (written lead n parts) = quotedAfter quoted (parts.map Part.char) := by
  induction parts generalizing quoted n with
  | nil => rfl
  | cons part parts ih =>
    cases part with
    | kept c => rw [written, List.map_cons, quotedAfter_cons, quotedAfter_cons, ih]; rfl
    | marker =>
      have hplain : quotedAfter quoted (marker lead n) = quoted := by
        rw [quotedAfter_eq, inQuotes, List.count_eq_zero_of_not_mem (not_mem_marker hlead n)]
        exact Bool.xor_false quoted
      rw [written, quotedAfter_append, hplain, ih, List.map_cons, quotedAfter_cons]
      simp [Part.char]

theorem numbers_apply {lead : String} (hlead : '\'' ∉ lead.toList) (sql : String) :
    Numbers lead sql ((numbered lead).apply sql) := by
  refine ⟨partsFrom false sql.toList, (map_partsFrom false _).symm, ?_,
    fun before part after hparts => ⟨?_, ?_⟩⟩
  · rw [apply_toList, written_partsFrom]
  · rw [inQuotes_eq]
    exact marker_iff hparts
  · rw [inQuotes_eq, inQuotes_eq]
    exact quotedAfter_written hlead false 1 before

/-! ## Reading back -/

/-- The conditions on a statement, seen from within it. -/
structure ReadableFrom (p : Char) (quoted : Bool) (cs : List Char) : Prop where
  own : p = '?' ∨ ∀ before after, cs = before ++ p :: after → quotedAfter quoted before = true
  apart : ∀ before c after, cs = before ++ '?' :: c :: after →
    quotedAfter quoted before = false → c.isDigit = false

theorem readable_iff {sql : String} :
    Readable p sql ↔ p.isDigit = false ∧ p ≠ '\'' ∧ ReadableFrom p false sql.toList := by
  constructor
  · rintro ⟨hdigit, hquote, hown, hapart⟩
    simp only [inQuotes_eq] at hown hapart
    exact ⟨hdigit, hquote, hown, hapart⟩
  · rintro ⟨hdigit, hquote, hown, hapart⟩
    simp only [← inQuotes_eq] at hown hapart
    exact ⟨hdigit, hquote, hown, hapart⟩

theorem Readable.readableFrom {sql : String} (h : Readable p sql) :
    ReadableFrom p false sql.toList :=
  (readable_iff.1 h).2.2

theorem ReadableFrom.tail {c : Char} (h : ReadableFrom p quoted (c :: cs)) :
    ReadableFrom p (quoted ^^ c == '\'') cs where
  own := h.own.imp_right fun hown before after hcs => by
    rw [← quotedAfter_cons]
    exact hown (c :: before) after (by rw [hcs, List.cons_append])
  apart before d after hcs hout := by
    rw [← quotedAfter_cons] at hout
    exact h.apart (c :: before) d after (by rw [hcs, List.cons_append]) hout

theorem ReadableFrom.head (h : ReadableFrom p false ('?' :: cs)) :
    ∀ c ∈ cs.head?, c.isDigit = false := by
  intro c hc
  obtain ⟨rest, rfl⟩ := List.head?_eq_some_iff.1 hc
  exact h.apart [] c rest rfl rfl

theorem ReadableFrom.eq_of_lead (h : ReadableFrom p false (p :: cs)) : p = '?' := by
  rcases h.own with rfl | hown
  · rfl
  · have := hown [] cs rfl
    cases this

theorem readableFrom_nil : ReadableFrom p quoted [] where
  own := .inr fun before after h => by simp at h
  apart before c after h := by simp at h

theorem readableFrom_cons {c : Char} :
    ReadableFrom p quoted (c :: cs) ↔
      (quoted = true ∨ (c = p → p = '?') ∧ (c = '?' → ∀ d ∈ cs.head?, d.isDigit = false)) ∧
        ReadableFrom p (quoted ^^ c == '\'') cs := by
  constructor
  · intro h
    refine ⟨?_, h.tail⟩
    cases quoted with
    | true => exact .inl rfl
    | false =>
      refine .inr ⟨?_, ?_⟩
      · rintro rfl
        exact h.eq_of_lead
      · rintro rfl
        exact h.head
  · rintro ⟨hhead, htail⟩
    constructor
    · by_cases hp : p = '?'
      · exact .inl hp
      · refine .inr fun before after hcs => ?_
        cases before with
        | nil =>
          obtain ⟨rfl, -⟩ := List.cons.inj hcs
          exact hhead.resolve_right fun h => hp (h.1 rfl)
        | cons b before =>
          obtain ⟨rfl, hrest⟩ := List.cons.inj hcs
          rw [quotedAfter_cons]
          exact htail.own.resolve_left hp before after hrest
    · intro before d after hcs hout
      cases before with
      | nil =>
        obtain ⟨rfl, rfl⟩ := List.cons.inj hcs
        rcases hhead with hquoted | ⟨-, hhead⟩
        · rw [quotedAfter, hquoted] at hout
          cases hout
        · exact hhead rfl d rfl
      | cons b before =>
        obtain ⟨rfl, hrest⟩ := List.cons.inj hcs
        rw [quotedAfter_cons] at hout
        exact htail.apart before d after hrest hout

/-- Tests the conditions character by character. -/
def isReadable (p : Char) : Bool → List Char → Bool
  | _, [] => true
  | quoted, c :: cs =>
    (quoted || ((c != p || p == '?') && (c != '?' || cs.head?.all fun d => !d.isDigit))) &&
      if c == '\'' then isReadable p (!quoted) cs else isReadable p quoted cs

theorem isReadable_iff (p : Char) (quoted : Bool) (cs : List Char) :
    isReadable p quoted cs = true ↔ ReadableFrom p quoted cs := by
  induction cs generalizing quoted with
  | nil => exact ⟨fun _ => readableFrom_nil, fun _ => rfl⟩
  | cons c cs ih =>
    have hrest : (if c == '\'' then isReadable p (!quoted) cs else isReadable p quoted cs) =
        isReadable p (quoted ^^ c == '\'') cs := by
      cases c == '\'' <;> simp
    have hall : (cs.head?.all fun d => !d.isDigit) = true ↔ ∀ d ∈ cs.head?, d.isDigit = false := by
      cases cs.head? <;> simp
    rw [isReadable, hrest, readableFrom_cons, ← ih, ← hall]
    simp only [Bool.and_eq_true, Bool.or_eq_true, bne_iff_ne, beq_iff_eq, ne_eq,
      Decidable.imp_iff_not_or]

instance (p : Char) (sql : String) : Decidable (Readable p sql) :=
  decidable_of_iff (p.isDigit = false ∧ p ≠ '\'' ∧ isReadable p false sql.toList = true) <| by
    rw [isReadable_iff, readable_iff]

theorem ReadableFrom.not_lead {c : Char} (h : ReadableFrom p quoted (c :: cs))
    (hmark : (c == '?' && !quoted) = false) : (c == p && !quoted) = false := by
  cases quoted with
  | true => exact Bool.and_false _
  | false =>
    have hc : c ≠ '?' := by simpa using hmark
    have hp : c ≠ p := by
      rintro rfl
      exact hc h.eq_of_lead
    rw [beq_false_of_ne hp, Bool.false_and]

/-- What numbering begins with is no digit, if the text and the lead do not begin with one. -/
theorem head_numberFrom (hp : p.isDigit = false) (n : Nat)
    (h : ∀ c ∈ cs.head?, c.isDigit = false) :
    ∀ c ∈ (numberFrom [p] quoted n cs).head?, c.isDigit = false := by
  cases cs with
  | nil => simp [numberFrom]
  | cons d cs =>
    have hd := h d rfl
    rw [numberFrom]
    split
    · simpa using hd
    · split
      · simpa [marker] using hp
      · simpa using hd

theorem digits_of_marker (n : Nat) : ∀ c ∈ Nat.toDigits 10 n, c.isDigit = true :=
  fun _ hc => Nat.isDigit_of_mem_toDigits (by decide) (by decide) hc

/-- The digits that are found behind a marker are its number. -/
theorem takeWhile_number {n : Nat} (h : ∀ c ∈ cs.head?, c.isDigit = false) :
    (Nat.toDigits 10 n ++ cs).takeWhile Char.isDigit = Nat.toDigits 10 n := by
  rw [List.takeWhile_append_of_pos (digits_of_marker n)]
  cases cs with
  | nil => rw [List.takeWhile_nil, List.append_nil]
  | cons c cs =>
    rw [List.takeWhile_cons_of_neg (by simpa using h c rfl), List.append_nil]

theorem numbersIn_digits (hp : p.isDigit = false) {ds : List Char}
    (hds : ∀ c ∈ ds, c.isDigit = true) (quoted : Bool) (cs : List Char) :
    numbersIn p quoted (ds ++ cs) = numbersIn p quoted cs := by
  induction ds with
  | nil => rfl
  | cons d ds ih =>
    have hd : d.isDigit = true := hds d (.head _)
    have hquote : (d == '\'') = false := beq_false_of_ne fun h => by rw [h] at hd; cases hd
    have hlead : (d == p) = false := beq_false_of_ne fun h => by rw [h, hp] at hd; cases hd
    rw [List.cons_append, numbersIn, hquote, hlead, Bool.false_and, if_neg Bool.false_ne_true,
      if_neg Bool.false_ne_true]
    exact ih fun c hc => hds c (.tail _ hc)

/-- The numbers that are found are those that were given. -/
theorem numbersIn_numberFrom (hp : p.isDigit = false) (hquote : p ≠ '\'')
    (h : ReadableFrom p quoted cs) (n : Nat) :
    numbersIn p quoted (numberFrom [p] quoted n cs) =
      (List.range' n (markers quoted cs)).map (Nat.toDigits 10) := by
  induction cs generalizing quoted n with
  | nil => rfl
  | cons c cs ih =>
    have htail := h.tail
    by_cases hc : c = '\''
    · subst hc
      simpa [numberFrom, numbersIn, markers] using ih (by simpa using htail) n
    · have hc' : (c == '\'') = false := beq_false_of_ne hc
      rw [hc', Bool.xor_false] at htail
      by_cases hmark : c = '?' ∧ quoted = false
      · obtain ⟨rfl, rfl⟩ := hmark
        have hhead : ∀ c ∈ (numberFrom [p] false (n + 1) cs).head?, c.isDigit = false :=
          head_numberFrom hp (n + 1) h.head
        have hlead : (p == '\'') = false := beq_false_of_ne hquote
        simp only [numberFrom, marker, markers, hc', List.cons_append, List.nil_append, numbersIn,
          hlead, beq_self_eq_true, Bool.not_false, Bool.and_self, if_true, if_false,
          Bool.false_eq_true]
        rw [takeWhile_number hhead, numbersIn_digits hp (digits_of_marker n), ih htail (n + 1),
          List.range'_succ, List.map_cons]
      · have hm : (c == '?' && !quoted) = false := by simpa using hmark
        have hlead := h.not_lead hm
        simp only [numberFrom, markers, hc', hm, numbersIn, hlead, if_false, Bool.false_eq_true]
        exact ih htail n

theorem restoreFrom_digits {ds : List Char} (hds : ∀ c ∈ ds, c.isDigit = true) (quoted : Bool)
    (cs : List Char) : restoreFrom p quoted true (ds ++ cs) = restoreFrom p quoted true cs := by
  induction ds with
  | nil => rfl
  | cons d ds ih =>
    have hd : (true && d.isDigit) = true := hds d (.head _)
    rw [List.cons_append, restoreFrom, if_pos hd]
    exact ih fun c hc => hds c (.tail _ hc)

/-- Making the markers bare undoes the numbering. -/
theorem restoreFrom_numberFrom (hp : p.isDigit = false) (hquote : p ≠ '\'')
    (h : ReadableFrom p quoted cs) (n : Nat)
    (hbehind : behind = true → ∀ c ∈ cs.head?, c.isDigit = false) :
    restoreFrom p quoted behind (numberFrom [p] quoted n cs) = cs := by
  -- behind a number the text has no digit of its own that could be left out with the number
  induction cs generalizing quoted behind n with
  | nil => rfl
  | cons c cs ih =>
    have htail := h.tail
    have hdigit : (behind && c.isDigit) = false := by
      cases behind with
      | false => rfl
      | true => exact hbehind rfl c rfl
    by_cases hc : c = '\''
    · subst hc
      have hrest := ih (by simpa using htail) n fun h => absurd h Bool.false_ne_true
      simpa [numberFrom, restoreFrom] using hrest
    · have hc' : (c == '\'') = false := beq_false_of_ne hc
      rw [hc', Bool.xor_false] at htail
      by_cases hmark : c = '?' ∧ quoted = false
      · obtain ⟨rfl, rfl⟩ := hmark
        have hlead : (p == '\'') = false := beq_false_of_ne hquote
        simp only [numberFrom, marker, hc', List.cons_append, List.nil_append, restoreFrom, hp,
          hlead, beq_self_eq_true, Bool.not_false, Bool.and_self, Bool.and_false, if_true, if_false,
          Bool.false_eq_true]
        rw [restoreFrom_digits (digits_of_marker n), ih htail (n + 1) fun _ => h.head]
      · have hm : (c == '?' && !quoted) = false := by simpa using hmark
        have hlead := h.not_lead hm
        simp only [numberFrom, hc', hm, restoreFrom, hdigit, hlead, if_false, Bool.false_eq_true]
        rw [ih htail n fun h => absurd h Bool.false_ne_true]

theorem restore_apply {lead sql : String} (hlead : lead.toList = [p]) (h : Readable p sql) :
    restore p ((numbered lead).apply sql) = sql := by
  rw [restore, apply_toList, hlead,
    restoreFrom_numberFrom h.notDigit h.notQuote h.readableFrom 1
      fun h => absurd h Bool.false_ne_true, String.ofList_toList]

theorem toDigits_injective {m n : Nat} (h : Nat.toDigits 10 m = Nat.toDigits 10 n) : m = n := by
  rw [← Nat.ofDigitChars_ten_toDigits (n := m), h, Nat.ofDigitChars_ten_toDigits]

theorem nodup_numbers (n k : Nat) : ((List.range' n k).map (Nat.toDigits 10)).Nodup := by
  refine List.Pairwise.map (Nat.toDigits 10) ?_ (List.nodup_range' (s := n) (n := k))
  intro i j hij h
  exact hij (toDigits_injective h)

/-- Numbering is faithful, and for statements whose markers can be read back it loses nothing: the
numbers in the result are `1`, `2` and so on, no two alike, and with the markers made bare it is the
statement again, so that no other statement of this kind has the same result. -/
theorem numbering_restored (lead : String) (hlead : '\'' ∉ lead.toList) (sql : String) :
    Numbers lead sql ((numbered lead).apply sql) ∧
      ∀ p, lead.toList = [p] → Readable p sql →
        numbersIn p false ((numbered lead).apply sql).toList =
          (List.range' 1 (markers false sql.toList)).map (Nat.toDigits 10) ∧
        (numbersIn p false ((numbered lead).apply sql).toList).Nodup ∧
        restore p ((numbered lead).apply sql) = sql ∧
        ∀ other, Readable p other →
          (numbered lead).apply other = (numbered lead).apply sql → other = sql := by
  refine ⟨numbers_apply hlead sql, fun p hp h => ?_⟩
  have hnumbers : numbersIn p false ((numbered lead).apply sql).toList =
      (List.range' 1 (markers false sql.toList)).map (Nat.toDigits 10) := by
    rw [apply_toList, hp]
    exact numbersIn_numberFrom h.notDigit h.notQuote h.readableFrom 1
  refine ⟨hnumbers, ?_, restore_apply hp h, fun other hother heq => ?_⟩
  · rw [hnumbers]
    exact nodup_numbers 1 _
  · calc other = restore p ((numbered lead).apply other) := (restore_apply hp hother).symm
      _ = restore p ((numbered lead).apply sql) := by rw [heq]
      _ = sql := restore_apply hp h

/-- Eleven markers, the last two next to each other, and behind them a quote that is left open; two
more `?` stand in quotes, with a doubled quote between them. -/
theorem numbering_restored_eleven :
    '\'' ∉ "?".toList ∧ "?".toList = ['?'] ∧
      Readable '?' "a ? '?''?' (?, ?, ?, ?, ?, ?, ?, ?) ?? 'b?" ∧
      (numbered "?").apply "a ? '?''?' (?, ?, ?, ?, ?, ?, ?, ?) ?? 'b?" =
        "a ?1 '?''?' (?2, ?3, ?4, ?5, ?6, ?7, ?8, ?9) ?10?11 'b?" ∧
      restore '?' "a ?1 '?''?' (?2, ?3, ?4, ?5, ?6, ?7, ?8, ?9) ?10?11 'b?" =
        "a ? '?''?' (?, ?, ?, ?, ?, ?, ?, ?) ?? 'b?" := by
  have hlead : '\'' ∉ "?".toList := by decide
  have hread : Readable '?' "a ? '?''?' (?, ?, ?, ?, ?, ?, ?, ?) ?? 'b?" := by decide +kernel
  have happly : (numbered "?").apply "a ? '?''?' (?, ?, ?, ?, ?, ?, ?, ?) ?? 'b?" =
      "a ?1 '?''?' (?2, ?3, ?4, ?5, ?6, ?7, ?8, ?9) ?10?11 'b?" := by decide +kernel
  have hrestored := (numbering_restored "?" hlead _).2 '?' rfl hread
  rw [happly] at hrestored
  exact ⟨hlead, rfl, hread, happly, hrestored.2.2.1⟩

end Placeholder

end RevisionLog
