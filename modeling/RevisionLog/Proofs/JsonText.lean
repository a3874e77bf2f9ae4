import Mathlib.Data.List.Forall2
import RevisionLog.Json.Reader

/-!
# The texts that are JSON

`Json.IsValue` says which texts are JSON values, at any depth, with numbers of any size and strings
in which half of a character may stand alone. `Json.Spells` says which texts stand for a string,
each of its characters plain or written after a backslash. Any of these is read as the string
(`Json.stringBody_pieces`), and any value is passed over (`Json.passes_of_isValue`).

What is read of a value may depend on the character behind it, which must not go on with a number
(`Json.Ends`); white space may stand before.
-/

namespace RevisionLog.Json

/-- White space only. -/
def Blank (cs : List Char) : Prop := ∀ c ∈ cs, isBlank c = true

/-- What may come after a value: white space, a comma, a closing bracket or nothing. -/
def Ends (rest : List Char) : Prop :=
  ∀ c ∈ rest.head?, isBlank c = true ∨ c = ',' ∨ c = ']' ∨ c = '\x7d'

/-- A text with white space around it. -/
structure Spaced where
  before : List Char
  text : List Char
  after : List Char
  blank_before : Blank before
  blank_after : Blank after

/-- The text and its white space. -/
def Spaced.chars (s : Spaced) : List Char := s.before ++ (s.text ++ s.after)

/-- A member of an object. -/
structure Member where
  key : Spaced
  value : Spaced

/-- The member's text. -/
def Member.chars (m : Member) : List Char := m.key.chars ++ ':' :: m.value.chars

/-- Texts one after another, with a comma before each but the first. -/
def listed : Bool → List (List Char) → List Char
  | _, [] => []
  | first, t :: ts => (if first then t else ',' :: t) ++ listed false ts

/-- The texts in brackets, with commas between. -/
def InBrackets (opening closing : Char) (texts : List (List Char)) (cs : List Char) : Prop :=
  ∃ blank, Blank blank ∧ cs = opening :: (listed true texts ++ (blank ++ [closing]))

/-- The text stands for the character in a string. -/
inductive Stands (c : Char) : List Char → Prop
  | plain (hcontrol : ¬ c < ' ') (hquote : c ≠ '"') (hbackslash : c ≠ '\\') : Stands c [c]
  | short {e : Char} (h : unescape e = some c) : Stands c ['\\', e]
  | unit {i j k l : Char} (h : Text.hexUnit i j k l = some c.toNat) :
    Stands c ['\\', 'u', i, j, k, l]
  | pair {i j k l i' j' k' l' : Char} {high low : Nat}
    (hhigh : Text.hexUnit i j k l = some high) (hlow : Text.hexUnit i' j' k' l' = some low)
    (hhigh' : isHighHalf high = true) (hlow' : isLowHalf low = true)
    (h : c.toNat = 0x10000 + 1024 * (high - 0xd800) + (low - 0xdc00)) :
    Stands c ['\\', 'u', i, j, k, l, '\\', 'u', i', j', k', l']

/-- The pieces one after another in quotes. -/
def inQuotes (pieces : List (List Char)) : List Char := '"' :: (pieces.flatten ++ ['"'])

/-- The text is the string in quotes, each of its characters in a way that stands for it. -/
def Spells (s : String) (cs : List Char) : Prop :=
  ∃ pieces, List.Forall₂ Stands s.toList pieces ∧ cs = inQuotes pieces

/-- A text that may stand in a string: a character, or what comes after a backslash; here a half of
a character is enough. -/
inductive IsPiece : List Char → Prop
  | plain {c : Char} (hcontrol : ¬ c < ' ') (hquote : c ≠ '"') (hbackslash : c ≠ '\\') : IsPiece [c]
  | short {e : Char} (h : (unescape e).isSome = true) : IsPiece ['\\', e]
  | unit {i j k l : Char} (h : (Text.hexUnit i j k l).isSome = true) :
    IsPiece ['\\', 'u', i, j, k, l]

/-- A JSON string. -/
def IsString (cs : List Char) : Prop :=
  ∃ pieces, (∀ piece ∈ pieces, IsPiece piece) ∧ cs = inQuotes pieces

/-- One digit or more. -/
def IsDigits (ds : List Char) : Prop := ds ≠ [] ∧ ∀ d ∈ ds, d.isDigit = true

/-- A JSON number of any size. -/
inductive IsNumber : List Char → Prop
  | mk {sign whole fraction exponent : List Char} (hsign : sign = [] ∨ sign = ['-'])
    (hwhole : IsDigits whole) (hzero : whole.head? = some '0' → whole.length = 1)
    (hfraction : fraction = [] ∨ ∃ ds, IsDigits ds ∧ fraction = '.' :: ds)
    (hexponent : exponent = [] ∨ ∃ e sign ds, (e = 'e' ∨ e = 'E') ∧
      (sign = [] ∨ sign = ['+'] ∨ sign = ['-']) ∧ IsDigits ds ∧ exponent = e :: (sign ++ ds)) :
    IsNumber (sign ++ (whole ++ (fraction ++ exponent)))

/-- A JSON value. -/
inductive IsValue : List Char → Prop
  | word {w : String} (h : w = "true" ∨ w = "false" ∨ w = "null") : IsValue w.toList
  | number {cs : List Char} (h : IsNumber cs) : IsValue cs
  | string {cs : List Char} (h : IsString cs) : IsValue cs
  | array {items : List Spaced} {cs : List Char} (hitems : ∀ item ∈ items, IsValue item.text)
    (h : InBrackets '[' ']' (items.map Spaced.chars) cs) : IsValue cs
  | object {members : List Member} {cs : List Char}
    (hkeys : ∀ m ∈ members, IsString m.key.text)
    (hvalues : ∀ m ∈ members, IsValue m.value.text)
    (h : InBrackets '\x7b' '\x7d' (members.map Member.chars) cs) : IsValue cs

variable {c : Char} {cs rest blank : List Char}

/-! ## White space -/

theorem Blank.append {before after : List Char} (hbefore : Blank before) (hafter : Blank after) :
    Blank (before ++ after) := by
  intro c hc
  rcases List.mem_append.1 hc with h | h
  · exact hbefore c h
  · exact hafter c h

theorem blank_nil : Blank [] := fun _ h => nomatch h

@[simp] theorem skip_cons (h : isBlank c = false) (cs : List Char) : skip (c :: cs) = c :: cs := by
  rw [skip, List.dropWhile_cons_of_neg (by rw [h]; exact Bool.false_ne_true)]

theorem skip_append (h : Blank blank) (cs : List Char) : skip (blank ++ cs) = skip cs := by
  induction blank with
  | nil => rfl
  | cons c blank ih =>
    rw [List.cons_append, skip, List.dropWhile_cons_of_pos (h c (.head _))]
    exact ih fun d hd => h d (.tail _ hd)

theorem skip_skip (cs : List Char) : skip (skip cs) = skip cs := by
  induction cs with
  | nil => rfl
  | cons c cs ih =>
    cases hc : isBlank c with
    | true =>
      have hskip : skip (c :: cs) = skip cs := List.dropWhile_cons_of_pos hc
      rw [hskip, ih]
    | false => rw [skip_cons hc, skip_cons hc]

theorem Ends.append (h : Ends rest) (hblank : Blank blank) : Ends (blank ++ rest) := by
  cases blank with
  | nil => exact h
  | cons c blank =>
    intro d hd
    obtain rfl : c = d := by simpa using hd
    exact .inl (hblank c (.head _))

/-- What is listed, and the closing bracket behind it, may come after a value. -/
theorem ends_listed {closing : Char} (hclosing : closing = ']' ∨ closing = '\x7d')
    (texts : List (List Char)) (hblank : Blank blank) (rest : List Char) :
    Ends (listed false texts ++ (blank ++ closing :: rest)) := by
  cases texts with
  | nil =>
    have hend : Ends (closing :: rest) := by
      intro c hc
      obtain rfl : closing = c := by simpa using hc
      exact .inr (.inr hclosing)
    exact hend.append hblank
  | cons t ts =>
    intro c hc
    obtain rfl : ',' = c := by simpa [listed] using hc
    exact .inr (.inl rfl)

/-! ## Strings -/

theorem inQuotes_append (pieces : List (List Char)) (rest : List Char) :
    inQuotes pieces ++ rest = '"' :: (pieces.flatten ++ '"' :: rest) := by
  rw [inQuotes, List.cons_append, List.append_assoc, List.singleton_append]

theorem not_half (c : Char) : isHighHalf c.toNat = false ∧ isLowHalf c.toNat = false := by
  have hvalid : c.toNat < 0xd800 ∨ 0xdfff < c.toNat ∧ c.toNat < 0x110000 := c.valid
  unfold isHighHalf isLowHalf
  simp only [Bool.and_eq_false_iff, decide_eq_false_iff_not]
  omega

theorem ne_of_unescape {e : Char} (h : (unescape e).isSome = true) : e ≠ 'u' := by
  rintro rfl
  cases h

theorem stringBody_stands {piece : List Char} (h : Stands c piece) (cs : List Char) :
    stringBody (piece ++ cs) = Text.push c (stringBody cs) := by
  cases h with
  | plain hcontrol hquote hbackslash => simp [stringBody, hcontrol, hbackslash]
  | short h =>
    have he := ne_of_unescape (Option.isSome_of_eq_some h)
    simp [stringBody, he, h]
  | unit h =>
    obtain ⟨hhigh, hlow⟩ := not_half c
    simp [stringBody, h, hhigh, hlow]
  | pair hhigh hlow hhigh' hlow' h =>
    simp only [List.cons_append, List.nil_append, stringBody, hhigh, hlow, hhigh', hlow', if_true,
      ← h, Char.ofNat_toNat]

theorem stringBody_pieces {s : List Char} {pieces : List (List Char)}
    (h : List.Forall₂ Stands s pieces) (rest : List Char) :
    stringBody (pieces.flatten ++ '"' :: rest) = some (s, rest) := by
  induction h with
  | nil => simp [stringBody]
  | cons hpiece _ ih =>
    rw [List.flatten_cons, List.append_assoc, stringBody_stands hpiece, ih]
    rfl

theorem ignoreString_piece {piece : List Char} (h : IsPiece piece) (cs : List Char) :
    ignoreString (piece ++ cs) = ignoreString cs := by
  cases h with
  | plain hcontrol hquote hbackslash => simp [ignoreString, hcontrol, hbackslash]
  | short h =>
    have he := ne_of_unescape h
    simp [ignoreString, he, h]
  | unit h => simp [ignoreString, h]

theorem ignoreString_pieces {pieces : List (List Char)} (h : ∀ piece ∈ pieces, IsPiece piece)
    (rest : List Char) : ignoreString (pieces.flatten ++ '"' :: rest) = some rest := by
  induction pieces with
  | nil => simp [ignoreString]
  | cons piece pieces ih =>
    rw [List.flatten_cons, List.append_assoc, ignoreString_piece (h piece (.head _))]
    exact ih fun p hp => h p (.tail _ hp)

/-! ## Numbers -/

theorem take_digits {ds : List Char} (hds : ∀ d ∈ ds, d.isDigit = true)
    (hrest : ∀ c ∈ rest.head?, c.isDigit = false) : Digits.take (ds ++ rest) = (ds, rest) := by
  rw [Digits.take, List.takeWhile_append_of_pos hds, List.dropWhile_append_of_pos hds]
  cases rest with
  | nil => simp
  | cons c rest =>
    have hc : ¬ c.isDigit = true := by simpa using hrest c rfl
    rw [List.takeWhile_cons_of_neg hc, List.dropWhile_cons_of_neg hc, List.append_nil]

theorem Ends.not_number (h : Ends rest) :
    ∀ c ∈ rest.head?, c.isDigit = false ∧ c ≠ '.' ∧ (c == 'e' || c == 'E') = false := by
  intro c hc
  rcases h c hc with hblank | rfl | rfl | rfl
  · simp only [isBlank, Bool.or_eq_true, beq_iff_eq] at hblank
    rcases hblank with ((rfl | rfl) | rfl) | rfl <;> decide
  all_goals decide

theorem takeFraction_none (h : ∀ c ∈ cs.head?, c ≠ '.') : takeFraction cs = some (none, cs) := by
  cases cs with
  | nil => rfl
  | cons c cs => simp [takeFraction, h c rfl]

theorem takeFraction_point {ds : List Char} (hds : IsDigits ds)
    (hrest : ∀ c ∈ rest.head?, c.isDigit = false) :
    takeFraction ('.' :: (ds ++ rest)) = some (some ds, rest) := by
  simp [takeFraction, take_digits hds.2 hrest, hds.1]

theorem takeExponent_none (h : ∀ c ∈ cs.head?, (c == 'e' || c == 'E') = false) :
    takeExponent cs = some (none, cs) := by
  cases cs with
  | nil => rfl
  | cons c cs => simp only [takeExponent, h c rfl, if_false, Bool.false_eq_true]

theorem takeSign_digits {ds : List Char} (hds : IsDigits ds) (rest : List Char) :
    Digits.takeSign (ds ++ rest) = (false, ds ++ rest) := by
  obtain ⟨hne, hds⟩ := hds
  cases ds with
  | nil => exact absurd rfl hne
  | cons d ds =>
    have hd := hds d (.head _)
    have hminus : d ≠ '-' := by rintro rfl; cases hd
    have hplus : d ≠ '+' := by rintro rfl; cases hd
    simp [Digits.takeSign, hminus, hplus]

theorem takeExponent_some {e : Char} {sign ds : List Char} (he : e = 'e' ∨ e = 'E')
    (hsign : sign = [] ∨ sign = ['+'] ∨ sign = ['-']) (hds : IsDigits ds)
    (hrest : ∀ c ∈ rest.head?, c.isDigit = false) :
    takeExponent (e :: (sign ++ ds) ++ rest) = some (some (sign == ['-'], ds), rest) := by
  have he' : (e == 'e' || e == 'E') = true := by simpa using he
  have hsign' : Digits.takeSign (sign ++ (ds ++ rest)) = (sign == ['-'], ds ++ rest) := by
    rcases hsign with rfl | rfl | rfl
    · exact takeSign_digits hds rest
    · rfl
    · rfl
  simp [takeExponent, he', hsign', take_digits hds.2 hrest, hds.1]

theorem numberParts_of {sign whole tail tail' : List Char} {fraction : Option (List Char)}
    {exponent : Option (Bool × List Char)} (hsign : sign = [] ∨ sign = ['-'])
    (hwhole : IsDigits whole) (hzero : whole.head? = some '0' → whole.length = 1)
    (htail : ∀ c ∈ tail.head?, c.isDigit = false)
    (hfraction : takeFraction tail = some (fraction, tail'))
    (hexponent : takeExponent tail' = some (exponent, rest)) :
    numberParts (sign ++ (whole ++ tail)) =
      some (⟨sign == ['-'], whole, fraction, exponent⟩, rest) := by
  have hminus : takeMinus (sign ++ (whole ++ tail)) = (sign == ['-'], whole ++ tail) := by
    rcases hsign with rfl | rfl
    · obtain ⟨d, ds, rfl⟩ := List.exists_cons_of_ne_nil hwhole.1
      have hd : d ≠ '-' := by
        rintro rfl
        cases hwhole.2 '-' (.head _)
      simp [takeMinus, hd]
    · rfl
  have hlead :
      (whole.isEmpty || (whole.head? == some '0' && decide (1 < whole.length))) = false := by
    rw [Bool.or_eq_false_iff, Bool.and_eq_false_iff]
    refine ⟨by simpa using hwhole.1, ?_⟩
    by_cases hhead : whole.head? = some '0'
    · exact .inr (by simp [hzero hhead])
    · exact .inl (by simpa using hhead)
  simp only [numberParts, hminus, take_digits hwhole.2 htail, hlead, if_false, Bool.false_eq_true,
    hfraction, Option.bind_eq_bind, Option.bind_some, hexponent]
  rfl

theorem numberParts_of_isNumber (h : IsNumber cs) (hrest : Ends rest) :
    ∃ parts, numberParts (cs ++ rest) = some (parts, rest) := by
  obtain ⟨hsign, hwhole, hzero, hfraction, hexponent⟩ := h
  rename_i sign whole fraction exponent
  simp only [List.append_assoc]
  have hend := hrest.not_number
  -- what comes after the fraction begins with `e`, or it is what comes after the number
  have hexp : (∀ c ∈ (exponent ++ rest).head?, c.isDigit = false ∧ c ≠ '.') ∧
      ∃ e, takeExponent (exponent ++ rest) = some (e, rest) := by
    rcases hexponent with rfl | ⟨e, sign, ds, he, hsign, hds, rfl⟩
    · exact ⟨fun c hc => ⟨(hend c hc).1, (hend c hc).2.1⟩,
        _, takeExponent_none fun c hc => (hend c hc).2.2⟩
    · refine ⟨fun c hc => ?_, _, takeExponent_some he hsign hds fun c hc => (hend c hc).1⟩
      obtain rfl : e = c := by simpa using hc
      rcases he with rfl | rfl <;> decide
  obtain ⟨hexp, e, he⟩ := hexp
  have hfrac : (∀ c ∈ (fraction ++ (exponent ++ rest)).head?, c.isDigit = false) ∧
      ∃ f, takeFraction (fraction ++ (exponent ++ rest)) = some (f, exponent ++ rest) := by
    rcases hfraction with rfl | ⟨ds, hds, rfl⟩
    · exact ⟨fun c hc => (hexp c hc).1, _, takeFraction_none fun c hc => (hexp c hc).2⟩
    · refine ⟨fun c hc => ?_, _, takeFraction_point hds fun c hc => (hexp c hc).1⟩
      obtain rfl : '.' = c := by simpa using hc
      rfl
  obtain ⟨hfrac, f, hf⟩ := hfrac
  exact ⟨_, numberParts_of hsign hwhole hzero hfrac hf he⟩

/-! ## Passing over values -/

/-- What a value begins with. -/
def Opens (c : Char) : Prop := isBlank c = false ∧ c ≠ ']' ∧ c ≠ '\x7d' ∧ c ≠ ','

instance (c : Char) : Decidable (Opens c) :=
  inferInstanceAs (Decidable (_ ∧ _))

theorem opens_of_digit (h : c.isDigit = true) : Opens c := by
  unfold Opens
  refine ⟨?_, ?_, ?_, ?_⟩
  · rw [Bool.eq_false_iff]
    intro hblank
    simp only [isBlank, Bool.or_eq_true, beq_iff_eq] at hblank
    rcases hblank with ((rfl | rfl) | rfl) | rfl <;> cases h
  all_goals
    rintro rfl
    cases h

theorem IsNumber.head (h : IsNumber cs) :
    ∃ c tail, cs = c :: tail ∧ startsNumber c = true ∧ Opens c := by
  obtain ⟨rfl | rfl, hwhole, -, -, -⟩ := h
  · obtain ⟨d, ds, rfl⟩ := List.exists_cons_of_ne_nil hwhole.1
    have hd := hwhole.2 d (.head _)
    exact ⟨d, _, rfl, by simp [startsNumber, hd], opens_of_digit hd⟩
  · exact ⟨'-', _, rfl, rfl, by decide⟩

theorem IsValue.head (h : IsValue cs) : ∃ c tail, cs = c :: tail ∧ Opens c := by
  cases h with
  | word h => rcases h with rfl | rfl | rfl <;> exact ⟨_, _, rfl, by decide⟩
  | number h =>
    obtain ⟨c, tail, rfl, -, hc⟩ := h.head
    exact ⟨c, tail, rfl, hc⟩
  | string h =>
    obtain ⟨pieces, -, rfl⟩ := h
    exact ⟨_, _, rfl, by decide⟩
  | array _ h =>
    obtain ⟨blank, -, rfl⟩ := h
    exact ⟨_, _, rfl, by decide⟩
  | object _ _ h =>
    obtain ⟨blank, -, rfl⟩ := h
    exact ⟨_, _, rfl, by decide⟩

/-- The value is passed over, with the white space before it, if there is fuel for each of its
characters. -/
def Passes (value : List Char) : Prop :=
  ∀ fuel before rest, value.length ≤ fuel → Blank before → Ends rest →
    ignoreValue fuel (before ++ (value ++ rest)) = some rest

theorem ignoreValue_congr {cs' : List Char} (h : skip cs = skip cs') (fuel : Nat) :
    ignoreValue fuel cs = ignoreValue fuel cs' := by
  cases fuel with
  | zero => rfl
  | succ fuel => simp only [ignoreValue, h]

theorem passes_of_head
    (h : ∀ fuel rest, cs.length ≤ fuel → Ends rest →
      ignoreValue (fuel + 1) (c :: (cs ++ rest)) = some rest) : Passes (c :: cs) := by
  intro fuel before rest hfuel hbefore hrest
  cases fuel with
  | zero => cases hfuel
  | succ fuel =>
    rw [ignoreValue_congr (skip_append hbefore _)]
    exact h fuel rest (Nat.le_of_succ_le_succ hfuel) hrest

theorem passes_word {w : String} (h : w = "true" ∨ w = "false" ∨ w = "null") : Passes w.toList := by
  rcases h with rfl | rfl | rfl <;>
    exact passes_of_head fun fuel rest _ _ => rfl

theorem passes_number (h : IsNumber cs) : Passes cs := by
  obtain ⟨c, tail, rfl, hstart, hc⟩ := h.head
  refine passes_of_head fun fuel rest _ hrest => ?_
  obtain ⟨parts, hparts⟩ := numberParts_of_isNumber h hrest
  rw [List.cons_append] at hparts
  have hquote : c ≠ '"' := by rintro rfl; cases hstart
  have hbracket : c ≠ '[' := by rintro rfl; cases hstart
  have hbrace : c ≠ '\x7b' := by rintro rfl; cases hstart
  simp [ignoreValue, skip_cons hc.1, hstart, hparts]

theorem passes_string (h : IsString cs) : Passes cs := by
  obtain ⟨pieces, hpieces, rfl⟩ := h
  refine passes_of_head fun fuel rest _ _ => ?_
  rw [List.append_assoc]
  exact ignoreString_pieces hpieces rest

theorem ignoreItems_listed {items : List Spaced} {before : List Char} {fuel : Nat}
    (hitems : ∀ item ∈ items, Passes item.text) (hbefore : Blank before) (hblank : Blank blank)
    (hfuel : (listed false (items.map Spaced.chars)).length < fuel) (rest : List Char) :
    ignoreItems fuel (before ++ (listed false (items.map Spaced.chars) ++ (blank ++ ']' :: rest))) =
      some rest := by
  induction items generalizing fuel before with
  | nil =>
    cases fuel with
    | zero => cases hfuel
    | succ fuel =>
      have hskip : skip (before ++ (blank ++ ']' :: rest)) = ']' :: rest := by
        rw [skip_append hbefore, skip_append hblank, skip_cons rfl]
      simp only [List.map_nil, listed, List.nil_append, ignoreItems, hskip]
  | cons item items ih =>
    cases fuel with
    | zero => cases hfuel
    | succ fuel =>
      -- the comma pays for the step
      simp only [List.map_cons, listed, if_false, Bool.false_eq_true, List.cons_append,
        List.length_cons, List.length_append, Spaced.chars] at hfuel
      have hend := ends_listed (.inl rfl) (items.map Spaced.chars) hblank rest
      have hvalue := hitems item (.head _) fuel item.before _ (by omega) item.blank_before
        (hend.append item.blank_after)
      simp only [List.map_cons, listed, if_false, Bool.false_eq_true, List.cons_append,
        List.append_assoc, Spaced.chars, ignoreItems, skip_append hbefore,
        skip_cons (c := ',') rfl]
      rw [hvalue, Option.bind_some]
      exact ih (fun i hi => hitems i (.tail _ hi)) item.blank_after (by omega)

theorem ignoreMembers_skip (fuel : Nat) (cs : List Char) :
    ignoreMembers fuel (skip cs) = ignoreMembers fuel cs := by
  cases fuel with
  | zero => rfl
  | succ fuel => simp only [ignoreMembers, skip_skip]

theorem readColon_append {before : List Char} (hbefore : Blank before) (cs : List Char) :
    readColon (before ++ ':' :: cs) = some cs := by
  simp only [readColon, skip_append hbefore, skip_cons (c := ':') rfl]

/-- A member is passed over, and the object is at its end or goes on behind a comma. -/
theorem ignoreMembers_member {m : Member} {fuel : Nat} {before tail : List Char}
    (hkey : IsString m.key.text) (hvalue : Passes m.value.text) (hbefore : Blank before)
    (hfuel : m.chars.length ≤ fuel) (htail : Ends tail) :
    (∀ rest, skip tail = '\x7d' :: rest →
      ignoreMembers (fuel + 1) (before ++ (m.chars ++ tail)) = some rest) ∧
    (∀ rest, skip tail = ',' :: rest →
      ignoreMembers (fuel + 1) (before ++ (m.chars ++ tail)) = ignoreMembers fuel rest) := by
  obtain ⟨pieces, hpieces, hkey⟩ := hkey
  have hlength : m.value.text.length ≤ fuel := by
    simp only [Member.chars, Spaced.chars, List.length_append, List.length_cons] at hfuel
    omega
  have hpass := hvalue fuel m.value.before (m.value.after ++ tail) hlength m.value.blank_before
    (htail.append m.value.blank_after)
  have hstring := ignoreString_pieces hpieces
    (m.key.after ++ ':' :: (m.value.before ++ (m.value.text ++ (m.value.after ++ tail))))
  constructor
  all_goals
    intro rest hrest
    simp only [Member.chars, Spaced.chars, hkey, inQuotes_append, List.append_assoc,
      List.cons_append, ignoreMembers, skip_append hbefore, skip_append m.key.blank_before,
      skip_cons (c := '"') rfl, hstring, readColon_append m.key.blank_after, hpass,
      skip_append m.value.blank_after, Option.bind_eq_bind, Option.bind_some, hrest]

theorem ignoreMembers_listed {m : Member} {members : List Member} {fuel : Nat} {before : List Char}
    (hkeys : ∀ m' ∈ m :: members, IsString m'.key.text)
    (hvalues : ∀ m' ∈ m :: members, Passes m'.value.text) (hbefore : Blank before)
    (hblank : Blank blank)
    (hfuel : m.chars.length + (listed false (members.map Member.chars)).length < fuel)
    (rest : List Char) :
    ignoreMembers fuel (before ++ (m.chars ++
      (listed false (members.map Member.chars) ++ (blank ++ '\x7d' :: rest)))) = some rest := by
  induction members generalizing m fuel before with
  | nil =>
    cases fuel with
    | zero => cases hfuel
    | succ fuel =>
      obtain ⟨hlast, -⟩ := ignoreMembers_member (hkeys m (.head _)) (hvalues m (.head _)) hbefore
        (Nat.le_trans (Nat.le_add_right _ _) (Nat.le_of_lt_succ hfuel))
        (ends_listed (.inr rfl) [] hblank rest)
      refine hlast rest ?_
      rw [listed, List.nil_append, skip_append hblank, skip_cons (c := '\x7d') rfl]
  | cons m' members ih =>
    cases fuel with
    | zero => cases hfuel
    | succ fuel =>
      obtain ⟨-, hmore⟩ := ignoreMembers_member (hkeys m (.head _)) (hvalues m (.head _)) hbefore
        (Nat.le_trans (Nat.le_add_right _ _) (Nat.le_of_lt_succ hfuel))
        (ends_listed (.inr rfl) ((m' :: members).map Member.chars) hblank rest)
      simp only [List.map_cons, listed, if_false, Bool.false_eq_true, List.cons_append,
        List.length_cons, List.length_append] at hfuel
      simp only [List.map_cons, listed, if_false, Bool.false_eq_true, List.cons_append,
        List.append_assoc] at hmore ⊢
      rw [hmore _ (skip_cons rfl _)]
      exact ih (fun m hm => hkeys m (.tail _ hm)) (fun m hm => hvalues m (.tail _ hm)) blank_nil
        (by omega)

theorem passes_array {items : List Spaced} (hvalues : ∀ item ∈ items, IsValue item.text)
    (hitems : ∀ item ∈ items, Passes item.text)
    (h : InBrackets '[' ']' (items.map Spaced.chars) cs) : Passes cs := by
  obtain ⟨blank, hblank, rfl⟩ := h
  refine passes_of_head fun fuel rest hfuel _ => ?_
  rw [List.append_assoc, List.append_assoc, List.singleton_append]
  cases items with
  | nil =>
    simp only [List.map_nil, listed, List.nil_append, ignoreValue, skip_cons (c := '[') rfl,
      skip_append hblank, skip_cons (c := ']') rfl]
  | cons item items =>
    obtain ⟨c, tail, htext, hc⟩ := (hvalues item (.head _)).head
    have hclose : c ≠ ']' := hc.2.1
    simp only [List.map_cons, listed, if_true, List.length_append, List.length_singleton,
      Spaced.chars] at hfuel
    have hend := ends_listed (.inl rfl) (items.map Spaced.chars) hblank rest
    have hvalue := hitems item (.head _) fuel [] _ (by omega) blank_nil
      (hend.append item.blank_after)
    have hitem : (listed false (items.map Spaced.chars)).length < fuel := by omega
    have hrest := ignoreItems_listed (fun i hi => hitems i (.tail _ hi)) item.blank_after hblank
      hitem rest
    rw [htext, List.nil_append, List.cons_append] at hvalue
    simp only [List.map_cons, listed, if_true, List.append_assoc, Spaced.chars, htext,
      List.cons_append, ignoreValue, skip_cons (c := '[') rfl, skip_append item.blank_before,
      skip_cons hc.1]
    split
    · rename_i heq
      exact absurd (List.cons.inj heq).1 hclose
    · rw [hvalue, Option.bind_some, hrest]

theorem passes_object {members : List Member} (hkeys : ∀ m ∈ members, IsString m.key.text)
    (hvalues : ∀ m ∈ members, Passes m.value.text)
    (h : InBrackets '\x7b' '\x7d' (members.map Member.chars) cs) : Passes cs := by
  obtain ⟨blank, hblank, rfl⟩ := h
  refine passes_of_head fun fuel rest hfuel _ => ?_
  rw [List.append_assoc, List.append_assoc, List.singleton_append]
  cases members with
  | nil =>
    simp only [List.map_nil, listed, List.nil_append, ignoreValue, skip_cons (c := '\x7b') rfl,
      skip_append hblank, skip_cons (c := '\x7d') rfl]
  | cons m members =>
    simp only [List.map_cons, listed, if_true, List.length_append, List.length_singleton] at hfuel
    obtain ⟨pieces, hpieces, hkey⟩ := hkeys m (.head _)
    have hlength : m.chars.length + (listed false (members.map Member.chars)).length < fuel := by
      omega
    have hmembers := ignoreMembers_listed hkeys hvalues blank_nil hblank hlength rest
    have hskip : skip (m.chars ++ (listed false (members.map Member.chars) ++
        (blank ++ '\x7d' :: rest))) = '"' :: (pieces.flatten ++ '"' :: (m.key.after ++ ':' ::
          (m.value.chars ++ (listed false (members.map Member.chars) ++
            (blank ++ '\x7d' :: rest))))) := by
      simp only [Member.chars, Spaced.chars, hkey, inQuotes_append, List.append_assoc,
        List.cons_append, skip_append m.key.blank_before, skip_cons (c := '"') rfl]
    rw [List.nil_append] at hmembers
    simp only [List.map_cons, listed, if_true, List.append_assoc, ignoreValue,
      skip_cons (c := '\x7b') rfl, hskip]
    rw [← ignoreMembers_skip, hskip] at hmembers
    exact hmembers

/-- Any value is passed over. -/
theorem passes_of_isValue (h : IsValue cs) : Passes cs := by
  induction h with
  | word h => exact passes_word h
  | number h => exact passes_number h
  | string h => exact passes_string h
  | array hitems h ih => exact passes_array hitems ih h
  | object hkeys _ h ih => exact passes_object hkeys ih h

end RevisionLog.Json
