import RevisionLog.Engine.Cell

/-!
# The order of bytes

Text is compared character by character, and the engine compares the bytes that it is stored as. The
two orders are the same (`Text.encode_lt_iff`): the bytes of two characters differ before either
sequence ends, and there as the characters do (`Text.utf8EncodeChar_append_lt`). So a query that
asks for text after other text asks for greater bytes (`Cell.isAbove_text`).
-/

namespace RevisionLog

namespace Text

/-! ## Bytes of characters -/

theorem ofNat_cons_lt {a b : Nat} (ha : a < 256) (hb : b < 256) {xs ys : Bytes} :
    UInt8.ofNat a :: xs < UInt8.ofNat b :: ys ↔ a < b ∨ a = b ∧ xs < ys := by
  rw [List.cons_lt_cons_iff, UInt8.lt_iff_toNat_lt, ← UInt8.toNat_inj,
    UInt8.toNat_ofNat_of_lt' ha, UInt8.toNat_ofNat_of_lt' hb]

/-- A lower character has lower bytes, whatever follows. -/
theorem utf8EncodeChar_append_lt {c d : Char} (h : c < d) (xs ys : Bytes) :
    String.utf8EncodeChar c ++ xs < String.utf8EncodeChar d ++ ys := by
  have hlt : c.val.toNat < d.val.toNat := h
  have hmax : d.val.toNat < 0x110000 := by
    rcases d.valid with hd | ⟨-, hd⟩
    · exact Nat.lt_trans hd (by decide)
    · exact hd
  -- a byte takes six bits of what is left, so the bytes are digits to the base 64
  have htwo (n : Nat) : n / 4096 = n / 64 / 64 := by omega
  have hthree (n : Nat) : n / 262144 = n / 64 / 64 / 64 := by omega
  simp only [String.utf8EncodeChar, htwo, hthree]
  generalize c.val.toNat = v at *
  generalize d.val.toNat = w at *
  repeat' split
  all_goals
    simp only [List.cons_append, List.nil_append]
    repeat rw [ofNat_cons_lt (by omega) (by omega)]
    omega

theorem flatMap_utf8EncodeChar_lt {cs ds : List Char} (h : cs < ds) :
    cs.flatMap String.utf8EncodeChar < ds.flatMap String.utf8EncodeChar := by
  induction cs generalizing ds with
  | nil =>
    cases ds with
    | nil => exact absurd h (List.lt_irrefl _)
    | cons d ds =>
      obtain ⟨b, bs, he⟩ := List.exists_cons_of_ne_nil (String.utf8EncodeChar_ne_nil (c := d))
      rw [List.flatMap_cons, he]
      exact List.nil_lt_cons b _
  | cons c cs ih =>
    cases ds with
    | nil => exact absurd h (List.not_lt_nil _)
    | cons d ds =>
      rw [List.flatMap_cons, List.flatMap_cons]
      rcases List.cons_lt_cons_iff.1 h with hlt | ⟨rfl, hlt⟩
      · exact utf8EncodeChar_append_lt hlt _ _
      · exact List.append_left_lt (ih hlt)

/-! ## Bytes of text -/

theorem toList_loop (bs : ByteArray) (i : Nat) (read : Bytes) :
    ByteArray.toList.loop bs i read = read.reverse ++ bs.data.toList.drop i := by
  fun_induction ByteArray.toList.loop bs i read with
  | case1 i read hlt ih =>
    have hlen : i < bs.data.toList.length := by simpa using hlt
    rw [ih, List.drop_eq_getElem_cons hlen]
    simp [ByteArray.get!, hlt]
  | case2 i read hge =>
    rw [List.drop_eq_nil_of_le (by simpa using Nat.le_of_not_lt hge)]
    simp

theorem encode_eq (s : String) : encode s = s.toList.flatMap String.utf8EncodeChar := by
  rw [encode, String.toUTF8_eq_toByteArray, ← String.utf8Encode_toList, List.utf8Encode,
    ByteArray.toList, toList_loop, List.toList_data_toByteArray]
  rfl

theorem encode_lt {s t : String} (h : s < t) : encode s < encode t := by
  rw [encode_eq, encode_eq]
  exact flatMap_utf8EncodeChar_lt (String.lt_iff.1 h)

/-- Text is in the order of its bytes. -/
theorem encode_lt_iff {s t : String} : encode s < encode t ↔ s < t := by
  refine ⟨fun h => String.not_le.1 fun hle => ?_, encode_lt⟩
  by_cases hge : s ≤ t
  · rw [String.le_antisymm hle hge] at h
    exact List.lt_irrefl _ h
  · exact List.lt_asymm h (encode_lt (String.not_le.1 hge))

end Text

namespace Cell

variable {s t : String}

theorem order_text_ne_gt : ((text s).order (text t) != .gt) = decide (s ≤ t) := by
  rw [Bool.eq_iff_iff]
  simp only [order, compare, String.compare, compareOfLessAndEq, bne_iff_ne, decide_eq_true_eq]
  split
  · rename_i hlt
    simpa using String.not_lt.1 (String.lt_asymm hlt)
  · rename_i hge
    split
    · rename_i he
      simp [he]
    · rename_i hne
      simp only [ne_eq, not_true_eq_false, false_iff]
      exact fun hle => hne (String.le_antisymm hle (String.not_lt.1 hge))

theorem isAbove_text : (text s).isAbove (text t) = true ↔ Text.encode t < Text.encode s := by
  have habove : (text s).isAbove (text t) = !((text s).order (text t) != .gt) :=
    (Bool.not_not _).symm
  rw [habove, order_text_ne_gt, Text.encode_lt_iff]
  simp

end Cell

end RevisionLog
