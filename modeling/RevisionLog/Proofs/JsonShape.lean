import RevisionLog.Json.Record
import RevisionLog.Proofs.JsonText

/-!
# Values read from any of their texts

`Json.Reads` says of a reader that it takes a text for a value, whatever stands behind the text. The
readers of single values take each text of the value: strings in any spelling, arrays of bytes with
any white space.

`Json.Fits` says which texts hold a value's fields: an array of them in their order, or an object
with each of them once, in any order, among other members. `Json.Shape.Gathers` says what reading
the fields one after another gathers, from what each field's reader does (`Json.Field.Takes`), and
`Json.Shape.Gathers.read_fits` that a value is then read from any text that fits. The run over the
members keeps the names that have been read; each member adds its own or is passed over
(`Json.Shape.readMembers_known`, `Json.Shape.readMembers_other`).
-/

namespace RevisionLog.Json

/-- The text begins as a value does. -/
def Begins (text : List Char) : Prop := ∃ c tail, text = c :: tail ∧ Opens c

/-- The reader takes the text, with white space before it, for the value. -/
structure Reads {α : Type} (read : Reader α) (text : List Char) (a : α) : Prop where
  begins : Begins text
  ok : ∀ before rest, Blank before → Ends rest → read (before ++ (text ++ rest)) = .ok (a, rest)

/-- The text is an array of the bytes. -/
def IsBytes (bs : List UInt8) (text : List Char) : Prop :=
  ∃ items : List Spaced, List.Forall₂ (fun b item => item.text = digits b.toNat) bs items ∧
    InBrackets '[' ']' (items.map Spaced.chars) text

variable {α π : Type} {c : Char} {blank before rest tail text : List Char}

theorem begins_cons (h : Opens c) (cs : List Char) : Begins (c :: cs) := ⟨c, cs, rfl, h⟩

/-! ## Single values -/

theorem head_toDigits {n : Nat} (h : 0 < n) : (Nat.toDigits 10 n).head? ≠ some '0' := by
  induction n using Nat.strongRecOn with
  | ind n ih =>
    rcases Nat.lt_or_ge n 10 with hlt | hge
    · rw [Nat.toDigits_of_lt_base hlt]
      intro hhead
      have hzero : n.digitChar = '0' := by simpa using hhead
      rw [Nat.digitChar_eq_zero] at hzero
      omega
    · have hne : Nat.toDigits 10 (n / 10) ≠ [] := Nat.toDigits_ne_nil
      rw [Nat.toDigits_of_base_le (by decide) hge, List.head?_append_of_ne_nil _ hne]
      exact ih (n / 10) (by omega) (by omega)

theorem le_ofDigitChars (n : Nat) (ds : List Char) : n ≤ Nat.ofDigitChars 10 ds n := by
  rw [Nat.ofDigitChars_eq_ofDigitChars_zero]
  have := Nat.le_mul_of_pos_left n (Nat.pow_pos (n := ds.length) (a := 10) (by decide))
  omega

theorem gather_eq {n : Nat} {ds : List Char} (h : Nat.ofDigitChars 10 ds n ≤ maxNat) :
    gather n ds = (Nat.ofDigitChars 10 ds n, 0) := by
  induction ds generalizing n with
  | nil => simp [gather]
  | cons d ds ih =>
    rw [Nat.ofDigitChars_cons] at h ⊢
    have hle := le_ofDigitChars (10 * n + (d.toNat - '0'.toNat)) ds
    rw [gather, Digits.ofChar, if_pos (Nat.le_trans hle h), ih h]

theorem isDigits_toDigits (n : Nat) : IsDigits (Nat.toDigits 10 n) :=
  ⟨Nat.toDigits_ne_nil, fun _ hd => Nat.isDigit_of_mem_toDigits (by decide) (by decide) hd⟩

/-- What a sign and the digits of a natural mean. -/
theorem value_toDigits (negative : Bool) {n : Nat} (hmax : n ≤ maxNat)
    (hmin : negative = true → 0 < n ∧ minInt ≤ -n) :
    NumberParts.value ⟨negative, Nat.toDigits 10 n, none, none⟩ =
      some (.int (if negative then -n else n)) := by
  have hgather : gather 0 (Nat.toDigits 10 n) = (n, 0) := by
    have hvalue : Nat.ofDigitChars 10 (Nat.toDigits 10 n) 0 = n := Nat.ofDigitChars_ten_toDigits
    rw [gather_eq (by rw [hvalue]; exact hmax), hvalue]
  cases negative with
  | false => simp [NumberParts.value, hgather]
  | true =>
    obtain ⟨hpos, hmin⟩ := hmin rfl
    have hreal : ¬ (n = 0 ∨ -(n : Int) < minInt) := by omega
    simp [NumberParts.value, hgather, hreal]

/-- The decimal of an integer of 64 bits is read as the integer. -/
theorem readNumber_digits {i : Int} (hmin : minInt ≤ i) (hmax : i ≤ maxInt) (hrest : Ends rest) :
    readNumber (digits i ++ rest) = some (.int i, rest) := by
  have hend := hrest.not_number
  have hzero : (Nat.toDigits 10 i.natAbs).head? = some '0' →
      (Nat.toDigits 10 i.natAbs).length = 1 := by
    intro hhead
    rcases Nat.eq_zero_or_pos i.natAbs with h | h
    · rw [h, Nat.toDigits_zero]
      rfl
    · exact absurd hhead (head_toDigits h)
  have hbound : i.natAbs ≤ maxNat := by
    unfold minInt at hmin
    unfold maxInt at hmax
    unfold maxNat
    omega
  obtain ⟨sign, hsign, hdigits, hneg, hi⟩ : ∃ sign, (sign = [] ∨ sign = ['-']) ∧
      digits i = sign ++ Nat.toDigits 10 i.natAbs ∧
      ((sign == ['-']) = true → 0 < i.natAbs ∧ minInt ≤ -(i.natAbs : Int)) ∧
      (if (sign == ['-']) = true then -(i.natAbs : Int) else i.natAbs) = i := by
    rcases Int.lt_or_le i 0 with hlt | hge
    · exact ⟨['-'], .inr rfl, if_pos hlt, fun _ => by omega, by rw [if_pos (by decide)]; omega⟩
    · refine ⟨[], .inl rfl, if_neg (by omega), fun h => absurd h (by decide), ?_⟩
      rw [if_neg (by decide)]
      omega
  have hparts := numberParts_of hsign (isDigits_toDigits i.natAbs) hzero (fun c hc => (hend c hc).1)
    (takeFraction_none fun c hc => (hend c hc).2.1) (takeExponent_none fun c hc => (hend c hc).2.2)
  have hvalue := value_toDigits (sign == ['-']) hbound hneg
  rw [hi] at hvalue
  simp only [readNumber, hdigits, List.append_assoc, hparts, Option.bind_eq_bind, Option.bind_some,
    hvalue]
  rfl

theorem digits_head (i : Int) :
    ∃ c tail, digits i = c :: tail ∧ startsNumber c = true ∧ Opens c := by
  unfold digits
  split
  · exact ⟨'-', _, rfl, rfl, by decide⟩
  · obtain ⟨hne, hdigits⟩ := isDigits_toDigits i.natAbs
    obtain ⟨d, ds, hd⟩ := List.exists_cons_of_ne_nil hne
    rw [hd] at hdigits
    have hdigit := hdigits d (.head _)
    exact ⟨d, ds, hd, by simp [startsNumber, hdigit], opens_of_digit hdigit⟩

theorem reads_int {expected : String} {lo hi i : Int} (hlo : lo ≤ i) (hhi : i ≤ hi)
    (hmin : minInt ≤ i) (hmax : i ≤ maxInt) : Reads (readInt expected lo hi) (digits i) i := by
  obtain ⟨c, ds, hdigits, hstart, hc⟩ := digits_head i
  refine ⟨⟨c, ds, hdigits, hc⟩, fun before rest hbefore hrest => ?_⟩
  have hnumber := readNumber_digits hmin hmax hrest
  rw [hdigits, List.cons_append] at hnumber
  have hbounds : (decide (lo ≤ i) && decide (i ≤ hi)) = true := by simp [hlo, hhi]
  simp only [readInt, skip_append hbefore, hdigits, List.cons_append, skip_cons hc.1, hstart,
    if_true, hnumber, hbounds]

theorem reads_bool {expected : String} (b : Bool) :
    Reads (readBool expected) (if b then "true" else "false").toList b := by
  cases b with
  | true =>
    refine ⟨begins_cons (by decide) _, fun before rest hbefore _ => ?_⟩
    rw [readBool, skip_append hbefore]
    rfl
  | false =>
    refine ⟨begins_cons (by decide) _, fun before rest hbefore _ => ?_⟩
    rw [readBool, skip_append hbefore]
    rfl

theorem reads_string {expected s : String} (h : Spells s text) :
    Reads (readString expected) text s := by
  obtain ⟨pieces, hpieces, rfl⟩ := h
  refine ⟨begins_cons (by decide) _, fun before rest hbefore _ => ?_⟩
  have hbody := stringBody_pieces hpieces rest
  simp only [readString, skip_append hbefore, inQuotes_append, skip_cons (c := '"') rfl, hbody,
    wellFormed, Except.map, String.ofList_toList]

/-! ## Lists in brackets -/

/-- What stands between items is passed over. -/
theorem nextItem_listed {close : Char} (hclose : close = ']' ∨ close = '\x7d') (first : Bool)
    {item : List Char} (hitem : Begins item) {space : List Char} (hspace : Blank space)
    (hbefore : Blank before) (texts : List (List Char)) (tail : List Char) :
    nextItem close first (before ++ (listed first ((space ++ item) :: texts) ++ tail)) =
      .ok (some (item ++ (listed false texts ++ tail))) := by
  obtain ⟨c, cs, rfl, hblank, hbracket, hbrace, hcomma⟩ := hitem
  have hc : (c == close) = false := by
    refine beq_false_of_ne ?_
    rcases hclose with rfl | rfl
    · exact hbracket
    · exact hbrace
  have hcomma' : (',' == close) = false := by rcases hclose with rfl | rfl <;> rfl
  cases first with
  | true =>
    simp only [nextItem, listed, if_true, List.append_assoc, List.cons_append,
      skip_append hbefore, skip_append hspace, skip_cons hblank, hc, if_false, Bool.false_eq_true]
  | false =>
    simp only [nextItem, listed, if_false, Bool.false_eq_true, List.append_assoc, List.cons_append,
      skip_append hbefore, skip_cons (c := ',') rfl, hcomma', skip_append hspace, skip_cons hblank,
      hc, beq_self_eq_true, if_true]

theorem nextItem_close {close : Char} (hclose : close = ']' ∨ close = '\x7d') (first : Bool)
    (hblank : Blank blank) (rest : List Char) :
    nextItem close first (blank ++ close :: rest) = .ok none := by
  have hc : isBlank close = false := by rcases hclose with rfl | rfl <;> rfl
  simp only [nextItem, skip_append hblank, skip_cons hc, beq_self_eq_true, if_true]

theorem readClose_append {close : Char} (hclose : close = ']' ∨ close = '\x7d')
    (hblank : Blank blank) (rest : List Char) :
    readClose close (blank ++ close :: rest) = .ok rest := by
  have hc : isBlank close = false := by rcases hclose with rfl | rfl <;> rfl
  simp only [readClose, skip_append hblank, skip_cons hc, beq_self_eq_true, if_true]

theorem length_le_listed {texts : List (List Char)} (h : ∀ t ∈ texts, t ≠ []) (first : Bool) :
    texts.length ≤ (listed first texts).length := by
  induction texts generalizing first with
  | nil => exact Nat.zero_le _
  | cons t ts ih =>
    have ht := List.length_pos_iff.2 (h t (.head _))
    have hts := ih (fun t ht => h t (.tail _ ht)) false
    cases first <;> simp only [listed, if_true, if_false, Bool.false_eq_true, List.length_append,
      List.length_cons] <;> omega

theorem Begins.append (h : Begins text) (tail : List Char) : Begins (text ++ tail) := by
  obtain ⟨c, cs, rfl, hc⟩ := h
  exact ⟨c, cs ++ tail, rfl, hc⟩

theorem chars_ne_nil {item : Spaced} (h : Begins item.text) : item.chars ≠ [] := by
  obtain ⟨c, cs, htext, -⟩ := h
  simp [Spaced.chars, htext]

/-- The items of an array of bytes are read one after another. -/
theorem readByteItems_listed {bs : List UInt8} {items : List Spaced}
    (h : List.Forall₂ (fun b item => item.text = digits (UInt8.toNat b)) bs items)
    (hblank : Blank blank) (hbefore : Blank before) (first : Bool) {fuel : Nat}
    (hfuel : items.length < fuel) (rest : List Char) :
    ∃ blank', Blank blank' ∧ readByteItems fuel first
      (before ++ (listed first (items.map Spaced.chars) ++ (blank ++ ']' :: rest))) =
        .ok (bs, blank' ++ ']' :: rest) := by
  induction h generalizing before first fuel with
  | nil =>
    cases fuel with
    | zero => cases hfuel
    | succ fuel =>
      have hnext := nextItem_close (.inl rfl) first (hbefore.append hblank) rest
      rw [List.append_assoc] at hnext
      refine ⟨before ++ blank, hbefore.append hblank, ?_⟩
      simp only [List.map_nil, listed, List.nil_append, readByteItems, hnext, List.append_assoc]
      rfl
  | @cons b item bs items hitem _ ih =>
    cases fuel with
    | zero => cases hfuel
    | succ fuel =>
      have hlt := b.toNat_lt
      obtain ⟨hbegins, hread⟩ : Reads (readInt "u8" 0 255) item.text b.toNat := by
        rw [hitem]
        exact reads_int (by omega) (by omega) (by unfold minInt; omega) (by unfold maxInt; omega)
      have hnext := nextItem_listed (.inl rfl) first (hbegins.append item.after) item.blank_before
        hbefore (items.map Spaced.chars) (blank ++ ']' :: rest)
      have hitem := hread [] _ blank_nil
        ((ends_listed (.inl rfl) (items.map Spaced.chars) hblank rest).append item.blank_after)
      obtain ⟨blank', hblank', hrest⟩ := ih item.blank_after false (by simpa using hfuel)
      refine ⟨blank', hblank', ?_⟩
      rw [List.nil_append] at hitem
      simp only [List.map_cons, readByteItems]
      rw [Spaced.chars, hnext, List.append_assoc]
      simp only [Except.bind, bind, hitem, hrest, pure, Except.pure, Int.toNat_natCast,
        UInt8.ofNat_toNat]

theorem exists_of_mem_right {β : Type} {R : α → β → Prop} {as : List α} {bs : List β}
    (h : List.Forall₂ R as bs) {b : β} (hb : b ∈ bs) : ∃ a ∈ as, R a b := by
  induction h with
  | nil => cases hb
  | @cons a b' as bs hR _ ih =>
    rcases List.mem_cons.1 hb with rfl | hb
    · exact ⟨a, .head _, hR⟩
    · obtain ⟨a', ha', hR'⟩ := ih hb
      exact ⟨a', .tail _ ha', hR'⟩

theorem reads_bytes {bs : List UInt8} (h : IsBytes bs text) : Reads readBytes text bs := by
  obtain ⟨items, hitems, blank, hblank, rfl⟩ := h
  refine ⟨begins_cons (by decide) _, fun before rest hbefore _ => ?_⟩
  have hne : ∀ t ∈ items.map Spaced.chars, t ≠ [] := by
    intro t ht
    obtain ⟨item, hitem, rfl⟩ := List.mem_map.1 ht
    obtain ⟨b, -, htext⟩ := exists_of_mem_right hitems hitem
    obtain ⟨c, cs, hdigits, -, hc⟩ := digits_head b.toNat
    exact chars_ne_nil ⟨c, cs, htext.trans hdigits, hc⟩
  have hlength := length_le_listed hne true
  rw [List.length_map] at hlength
  have hfuel : items.length <
      (listed true (items.map Spaced.chars) ++ (blank ++ ']' :: rest)).length + 1 := by
    rw [List.length_append]
    omega
  obtain ⟨blank', hblank', hread⟩ :=
    readByteItems_listed hitems hblank blank_nil true hfuel rest
  rw [List.nil_append] at hread
  simp only [readBytes, skip_append hbefore, List.cons_append, skip_cons (c := '[') rfl,
    List.append_assoc, List.nil_append, hread, bind, Except.bind,
    readClose_append (.inl rfl) hblank', pure, Except.pure]

/-! ## Fields -/

/-- The field has been read, and those that were read before. -/
def mark (name : String) (read : String → Bool) : String → Bool := fun n => n == name || read n

/-- Reading the field from any of the `texts` adds it to what has been gathered: `part read` is what
is gathered when the fields have been read whose names are in `read`. -/
structure Field.Takes (f : Field π) (part : (String → Bool) → π) (texts : List Char → Prop) :
    Prop where
  required : f.optional = false
  isSet : ∀ read, f.isSet (part read) = read f.name
  reads : ∀ read text, texts text → Reads (f.read (part read)) text (part (mark f.name read))

/-- A field that keeps one value, from a reader of the value. -/
theorem Field.of_takes {β : Type} {name : String} {kept : π → Option β} {keep : π → β → π}
    {reader : Reader β} {part : (String → Bool) → π} {texts : List Char → Prop} {b : β}
    (hkept : ∀ read, kept (part read) = if read name then some b else none)
    (hkeep : ∀ read, keep (part read) b = part (mark name read))
    (hreads : ∀ text, texts text → Reads reader text b) :
    (Field.of name kept keep reader).Takes part texts where
  required := rfl
  isSet read := by
    simp only [Field.of, hkept]
    cases read name <;> rfl
  reads read text htext := by
    obtain ⟨hbegins, hok⟩ := hreads text htext
    refine ⟨hbegins, fun before rest hbefore hrest => ?_⟩
    simp only [Field.of, hok before rest hbefore hrest, Except.map, hkeep]

/-- The names of the fields of a type, each with the texts that hold the field's value. -/
abbrev FieldTexts := List (String × (List Char → Prop))

/-- Reading the fields one after another gathers the value. -/
structure Shape.Gathers (s : Shape π α) (part : (String → Bool) → π) (fields : FieldTexts) (a : α) :
    Prop where
  takes : List.Forall₂ (fun f t => f.name = t.1 ∧ f.Takes part t.2) s.fields fields
  blank : s.blank = part fun _ => false
  build : ∀ read, (∀ t ∈ fields, read t.1 = true) → s.build (part read) = a

/-- A member with a name that its key stands for. The key is read to tell whether it is a field, so
no half of a character stands alone in it. -/
structure NamedMember extends Member where
  name : String
  spelled : Spells name key.text

/-- The names of the members that are fields. -/
def fieldNames (fields : FieldTexts) (members : List NamedMember) : List String :=
  (members.map NamedMember.name).filter (· ∈ fields.map Prod.fst)

/-- The members of an object that holds the fields, each once and in any order, among other members
with any values. -/
structure HasFields (fields : FieldTexts) (members : List NamedMember) : Prop where
  once : (fieldNames fields members).Perm (fields.map Prod.fst)
  known : ∀ m ∈ members, ∀ t ∈ fields, t.1 = m.name → t.2 m.value.text
  others : ∀ m ∈ members, m.name ∉ fields.map Prod.fst → IsValue m.value.text

/-- The texts that hold the fields. -/
inductive Fits (fields : FieldTexts) : List Char → Prop
  | object {members : List NamedMember} {text : List Char} (h : HasFields fields members)
    (htext : InBrackets '\x7b' '\x7d' (members.map fun m => m.chars) text) : Fits fields text
  | array {items : List Spaced} {text : List Char}
    (h : List.Forall₂ (fun t item => t.2 item.text) fields items)
    (htext : InBrackets '[' ']' (items.map Spaced.chars) text) : Fits fields text

theorem fieldNames_known {fields : FieldTexts} {m : NamedMember}
    (hname : m.name ∈ fields.map Prod.fst) (members : List NamedMember) :
    fieldNames fields (m :: members) = m.name :: fieldNames fields members := by
  rw [fieldNames, List.map_cons, List.filter_cons_of_pos (by simpa using hname)]
  rfl

theorem fieldNames_other {fields : FieldTexts} {m : NamedMember}
    (hname : m.name ∉ fields.map Prod.fst) (members : List NamedMember) :
    fieldNames fields (m :: members) = fieldNames fields members := by
  rw [fieldNames, List.map_cons, List.filter_cons_of_neg (by simpa using hname)]
  rfl

theorem HasFields.perm {fields : FieldTexts} {members members' : List NamedMember}
    (h : HasFields fields members) (hperm : members.Perm members') :
    HasFields fields members' where
  once := ((hperm.map NamedMember.name).filter _).symm.trans h.once
  known m hm := h.known m (hperm.mem_iff.2 hm)
  others m hm := h.others m (hperm.mem_iff.2 hm)

theorem HasFields.cons_other {fields : FieldTexts} {members : List NamedMember}
    (h : HasFields fields members) {m : NamedMember} (hname : m.name ∉ fields.map Prod.fst)
    (hvalue : IsValue m.value.text) : HasFields fields (m :: members) where
  once := by
    rw [fieldNames_other hname]
    exact h.once
  known := by
    refine List.forall_mem_cons.2 ⟨fun t ht htname => ?_, h.known⟩
    exact absurd (List.mem_map.2 ⟨t, ht, htname⟩) hname
  others := List.forall_mem_cons.2 ⟨fun _ => hvalue, h.others⟩

theorem mark_of (name : String) {read : String → Bool} {n : String} (h : read n = true) :
    mark name read n = true := by
  rw [mark, h, Bool.or_true]

theorem mark_self (name : String) (read : String → Bool) : mark name read name = true := by
  rw [mark, beq_self_eq_true, Bool.true_or]

namespace Shape

variable {s : Shape π α} {part : (String → Bool) → π} {fields : FieldTexts} {a : α}
  {read : String → Bool}

/-- The field that is found for a name takes the texts that are given for the name. -/
theorem Gathers.find (h : s.Gathers part fields a) {name : String}
    (hname : name ∈ fields.map Prod.fst) :
    ∃ f t, s.fields.find? (fun f => f.name.toList == name.toList) = some f ∧ f.name = name ∧
      t ∈ fields ∧ t.1 = name ∧ f.Takes part t.2 := by
  obtain ⟨t, ht, rfl⟩ := List.mem_map.1 hname
  obtain ⟨f, hf, hft, -⟩ := exists_of_mem_right h.takes ht
  have hsome : (s.fields.find? fun f => f.name.toList == t.1.toList).isSome = true := by
    rw [List.find?_isSome]
    exact ⟨f, hf, by rw [hft, beq_self_eq_true]⟩
  obtain ⟨g, hg⟩ := Option.isSome_iff_exists.1 hsome
  have hgname : g.name = t.1 := String.toList_inj.1 (by simpa using List.find?_some hg)
  obtain ⟨t', ht', hgt', htakes⟩ :=
    exists_of_mem_right h.takes.flip (List.mem_of_find?_eq_some hg)
  exact ⟨g, t', hg, hgname, ht', hgt'.symm.trans hgname, htakes⟩

theorem Gathers.find_none (h : s.Gathers part fields a) {name : String}
    (hname : name ∉ fields.map Prod.fst) :
    s.fields.find? (fun f => f.name.toList == name.toList) = none := by
  rw [List.find?_eq_none]
  intro f hf heq
  obtain ⟨t, ht, hft, -⟩ := exists_of_mem_right h.takes.flip hf
  have hfname : f.name = name := String.toList_inj.1 (by simpa using heq)
  exact hname (List.mem_map.2 ⟨t, ht, hft.symm.trans hfname⟩)

/-- What is read of a member up to its value. -/
theorem nextItem_member (m : NamedMember) (first : Bool) (hbefore : Blank before)
    (texts : List (List Char)) (tail : List Char) :
    ∃ cs rest, nextItem '\x7d' first (before ++ (listed first (m.chars :: texts) ++ tail)) =
        .ok (some ('"' :: cs)) ∧
      stringBody cs = some (m.name.toList, rest) ∧
      readColon rest = some (m.value.before ++
        (m.value.text ++ (m.value.after ++ (listed false texts ++ tail)))) := by
  obtain ⟨pieces, hpieces, hkey⟩ := m.spelled
  have hchars : m.chars = m.key.before ++ ('"' :: (pieces.flatten ++ '"' :: (m.key.after ++
      ':' :: m.value.chars))) := by
    simp only [Member.chars, Spaced.chars, hkey, List.append_assoc, inQuotes_append,
      List.cons_append]
  have hbegins := begins_cons (c := '"') (by decide)
    (pieces.flatten ++ '"' :: (m.key.after ++ ':' :: m.value.chars))
  have hnext := nextItem_listed (.inr rfl) first hbegins m.key.blank_before hbefore texts tail
  rw [hchars]
  refine ⟨_, _, hnext, ?_, readColon_append m.key.blank_after _⟩
  simp only [Spaced.chars, List.append_eq, List.append_assoc, List.cons_append]
  exact stringBody_pieces hpieces _

/-- A member that holds a field is read as the field. -/
theorem readMembers_known (h : s.Gathers part fields a) {m : NamedMember}
    (hname : m.name ∈ fields.map Prod.fst)
    (hvalue : ∀ t ∈ fields, t.1 = m.name → t.2 m.value.text) (hfresh : read m.name = false)
    (fuel : Nat) (first : Bool) (hbefore : Blank before) {texts : List (List Char)}
    {tail : List Char} (htail : Ends (listed false texts ++ tail)) :
    s.readMembers (fuel + 1) first (part read)
        (before ++ (listed first (m.chars :: texts) ++ tail)) =
      s.readMembers fuel false (part (mark m.name read))
        (m.value.after ++ (listed false texts ++ tail)) := by
  obtain ⟨cs, rest, hnext, hbody, hcolon⟩ := nextItem_member m first hbefore texts tail
  obtain ⟨f, t, hfind, hf, ht, htname, htakes⟩ := h.find hname
  have hset : f.isSet (part read) = false := by rw [htakes.isSet, hf, hfresh]
  have hread := (htakes.reads read _ (hvalue t ht htname)).ok m.value.before _
    m.value.blank_before (htail.append m.value.blank_after)
  rw [hf] at hread
  simp only [readMembers, hnext, hbody, hcolon, wellFormed, hfind, hset, hread, bind, Except.bind,
    if_false, Bool.false_eq_true]

/-- Another member is passed over. -/
theorem readMembers_other (h : s.Gathers part fields a) {m : NamedMember}
    (hname : m.name ∉ fields.map Prod.fst) (hvalue : IsValue m.value.text) (p : π)
    (fuel : Nat) (first : Bool) (hbefore : Blank before) {texts : List (List Char)}
    {tail : List Char} (htail : Ends (listed false texts ++ tail)) :
    s.readMembers (fuel + 1) first p (before ++ (listed first (m.chars :: texts) ++ tail)) =
      s.readMembers fuel false p (m.value.after ++ (listed false texts ++ tail)) := by
  obtain ⟨cs, rest, hnext, hbody, hcolon⟩ := nextItem_member m first hbefore texts tail
  have hfind := h.find_none hname
  have hignore := passes_of_isValue hvalue
    (2 * (m.value.before ++ (m.value.text ++ (m.value.after ++
      (listed false texts ++ tail)))).length + 2) m.value.before _
    (by simp only [List.length_append]; omega) m.value.blank_before
    (htail.append m.value.blank_after)
  simp only [readMembers, hnext, hbody, hcolon, wellFormed, hfind, hignore, bind, Except.bind]

/-- The members of an object are read one after another, and each field that is among them. -/
theorem readMembers_listed (h : s.Gathers part fields a) {members : List NamedMember}
    (hknown : ∀ m ∈ members, ∀ t ∈ fields, t.1 = m.name → t.2 m.value.text)
    (hothers : ∀ m ∈ members, m.name ∉ fields.map Prod.fst → IsValue m.value.text)
    (hnodup : (fieldNames fields members).Nodup)
    (hfresh : ∀ name ∈ fieldNames fields members, read name = false)
    (hblank : Blank blank) (hbefore : Blank before) (first : Bool) {fuel : Nat}
    (hfuel : members.length < fuel) (rest : List Char) :
    ∃ read' blank', Blank blank' ∧ (∀ name, read name = true → read' name = true) ∧
      (∀ name ∈ fieldNames fields members, read' name = true) ∧
      s.readMembers fuel first (part read)
        (before ++ (listed first (members.map fun m => m.chars) ++ (blank ++ '\x7d' :: rest))) =
          .ok (part read', blank' ++ '\x7d' :: rest) := by
  -- `read` grows by the name of each field, and what is left of the members has none of its names
  induction members generalizing read before first fuel with
  | nil =>
    cases fuel with
    | zero => cases hfuel
    | succ fuel =>
      have hnext := nextItem_close (.inr rfl) first (hbefore.append hblank) rest
      rw [List.append_assoc] at hnext
      refine ⟨read, before ++ blank, hbefore.append hblank, fun _ h => h,
        fun _ h => absurd h List.not_mem_nil, ?_⟩
      simp only [List.map_nil, listed, List.nil_append, readMembers, hnext, List.append_assoc]
      rfl
  | cons m members ih =>
    cases fuel with
    | zero => cases hfuel
    | succ fuel =>
      have htail := ends_listed (.inr rfl) (members.map fun m => m.chars) hblank rest
      have hlt : members.length < fuel := by simpa using hfuel
      have hrun (read : String → Bool) (hnodup : (fieldNames fields members).Nodup)
          (hfresh : ∀ name ∈ fieldNames fields members, read name = false) :=
        ih (fun m hm => hknown m (.tail _ hm)) (fun m hm => hothers m (.tail _ hm)) hnodup hfresh
          m.value.blank_after false hlt
      rw [List.map_cons]
      by_cases hname : m.name ∈ fields.map Prod.fst
      · rw [fieldNames_known hname] at hnodup hfresh ⊢
        rw [readMembers_known h hname (hknown m (.head _)) (hfresh m.name (.head _)) fuel first
          hbefore htail]
        obtain ⟨hnot, hnodup⟩ := List.nodup_cons.1 hnodup
        have hfresh' : ∀ name ∈ fieldNames fields members, mark m.name read name = false := by
          intro name hmem
          have hne : (name == m.name) = false := beq_false_of_ne fun h => hnot (h ▸ hmem)
          rw [mark, hne, hfresh name (.tail _ hmem)]
          rfl
        obtain ⟨read', blank', hblank', hle, hall, hread⟩ := hrun _ hnodup hfresh'
        refine ⟨read', blank', hblank', fun name hn => hle name (mark_of _ hn), ?_, hread⟩
        refine List.forall_mem_cons.2 ⟨hle m.name (mark_self _ _), hall⟩
      · rw [fieldNames_other hname] at hnodup hfresh ⊢
        rw [readMembers_other h hname (hothers m (.head _) hname) _ fuel first hbefore htail]
        exact hrun _ hnodup hfresh

/-- The items of an array are read as the fields in their order. -/
theorem readItems_listed (s : Shape π α) {fs : List (Field π)} {items : List Spaced}
    (htakes : List.Forall₂ (fun f t => f.name = t.1 ∧ f.Takes part t.2) fs fields)
    (hitems : List.Forall₂ (fun t item => t.2 item.text) fields items) (hblank : Blank blank)
    (hbefore : Blank before) (done : Nat) (read : String → Bool) (rest : List Char) :
    ∃ read' blank', Blank blank' ∧ (∀ name, read name = true → read' name = true) ∧
      (∀ t ∈ fields, read' t.1 = true) ∧
      s.readItems fs done (part read)
        (before ++ (listed (done == 0) (items.map Spaced.chars) ++ (blank ++ ']' :: rest))) =
          .ok (part read', blank' ++ ']' :: rest) := by
  induction htakes generalizing items read before done with
  | nil =>
    cases hitems
    refine ⟨read, before ++ blank, hbefore.append hblank, fun _ h => h,
      fun _ h => absurd h List.not_mem_nil, ?_⟩
    simp only [List.map_nil, listed, List.nil_append, readItems, List.append_assoc]
  | @cons f t fs fields hf _ ih =>
    obtain ⟨hname, htakes⟩ := hf
    cases hitems with
    | @cons _ item _ items hitem hitems =>
      obtain ⟨hbegins, hread⟩ := htakes.reads read _ hitem
      have hnext := nextItem_listed (.inl rfl) (done == 0) (hbegins.append item.after)
        item.blank_before hbefore (items.map Spaced.chars) (blank ++ ']' :: rest)
      have hvalue := hread [] _ blank_nil
        ((ends_listed (.inl rfl) (items.map Spaced.chars) hblank rest).append item.blank_after)
      obtain ⟨read', blank', hblank', hle, hall, hrest⟩ :=
        ih hitems item.blank_after (done + 1) (mark t.1 read)
      rw [List.nil_append, hname] at hvalue
      refine ⟨read', blank', hblank', fun name hn => hle name (mark_of _ hn),
        List.forall_mem_cons.2 ⟨hle _ (mark_self _ _), hall⟩, ?_⟩
      rw [List.map_cons, readItems, Spaced.chars, hnext, List.append_assoc]
      simp only [bind, Except.bind, hvalue]
      exact hrest

theorem finish_part (h : s.Gathers part fields a) (hread : ∀ t ∈ fields, read t.1 = true) :
    s.finish (part read) = .ok a := by
  have hnone : s.fields.find? (fun f => !f.isSet (part read) && !f.optional) = none := by
    rw [List.find?_eq_none]
    intro f hf hmissing
    obtain ⟨t, ht, hname, htakes⟩ := exists_of_mem_right h.takes.flip hf
    rw [htakes.isSet, hname, hread t ht] at hmissing
    cases hmissing
  rw [finish, hnone]
  exact congrArg Except.ok (h.build read hread)

/-- A value is read from any text that holds its fields. -/
theorem Gathers.read_fits (h : s.Gathers part fields a) (hnodup : (fields.map Prod.fst).Nodup)
    (htext : Fits fields text) : Reads s.read text a := by
  cases htext with
  | @object members text hmembers htext =>
    obtain ⟨blank, hblank, rfl⟩ := htext
    refine ⟨begins_cons (by decide) _, fun before rest hbefore _ => ?_⟩
    obtain ⟨honce, hknown, hothers⟩ := hmembers
    have hne : ∀ t ∈ members.map (fun m => m.chars), t ≠ [] := by
      intro t ht
      obtain ⟨m, -, rfl⟩ := List.mem_map.1 ht
      simp [Member.chars]
    have hlength := length_le_listed hne true
    rw [List.length_map] at hlength
    have hfuel : members.length <
        (listed true (members.map fun m => m.chars) ++ (blank ++ '\x7d' :: rest)).length + 1 := by
      rw [List.length_append]
      omega
    obtain ⟨read, blank', hblank', -, hall, hread⟩ := readMembers_listed h hknown hothers
      (honce.nodup_iff.2 hnodup) (fun _ _ => rfl) hblank blank_nil true hfuel rest
    have hfinish := finish_part h fun t ht =>
      hall t.1 (honce.mem_iff.2 (List.mem_map_of_mem ht))
    rw [List.nil_append, ← h.blank] at hread
    simp only [Shape.read, skip_append hbefore, List.cons_append, skip_cons (c := '\x7b') rfl,
      List.append_assoc, List.nil_append, hread, bind, Except.bind, hfinish,
      readClose_append (.inr rfl) hblank', pure, Except.pure]
  | @array items text hitems htext =>
    obtain ⟨blank, hblank, rfl⟩ := htext
    refine ⟨begins_cons (by decide) _, fun before rest hbefore _ => ?_⟩
    obtain ⟨read, blank', hblank', -, hall, hread⟩ :=
      readItems_listed s h.takes hitems hblank blank_nil 0 (fun _ => false) rest
    rw [List.nil_append, ← h.blank] at hread
    simp only [Shape.read, skip_append hbefore, List.cons_append, skip_cons (c := '[') rfl,
      List.append_assoc, List.nil_append]
    have hread' : s.readItems s.fields 0 s.blank (listed true (items.map Spaced.chars) ++
      (blank ++ ']' :: rest)) = _ := hread
    simp only [hread', bind, Except.bind, readClose_append (.inl rfl) hblank', pure, Except.pure,
      h.build read hall]

end Shape

/-- A whole text is read, with white space around it. -/
theorem decode_chars {read : Reader α} {a : α} {text : Spaced} (h : Reads read text.text a) :
    decode read (String.ofList text.chars) = .ok a := by
  have hend : Ends (text.after ++ []) := Ends.append (fun c hc => by simp at hc) text.blank_after
  have hread := h.ok text.before _ text.blank_before hend
  have hskip : skip (text.after ++ []) = [] := skip_append text.blank_after []
  rw [List.append_nil] at hread hskip
  simp only [decode, String.toList_ofList, Spaced.chars, hread, bind, Except.bind, hskip,
    List.isEmpty_nil, if_true, pure, Except.pure]

end RevisionLog.Json
