import RevisionLog.Engine.StoredRow

/-!
# Comparisons of text and integers

The log writes text, integers, flags and bytes. On these the comparisons of a query are the plain
ones (`equals_text`, `equals_int`, `differs_int`, `isBelow_int`), and what a column reads back is
what was written (`readInt_ofInt?`, `readFlag_flag`). `Cell.ofInt?` is what a query that may find
nothing answers; such is the greatest of integers (`foldl_max_null`).
-/

namespace RevisionLog

namespace Cell

/-! ## Equality and order -/

@[simp] theorem equals_text (s t : String) : (text s).equals (text t) = (s == t) := by
  rw [Bool.eq_iff_iff]
  simp [equals, bothKnown, order]

@[simp] theorem equals_int (i j : Int) : (int i).equals (int j) = (i == j) := by
  rw [Bool.eq_iff_iff]
  simp [equals, bothKnown, order]

@[simp] theorem differs_text (s t : String) : (text s).differs (text t) = (s != t) := by
  rw [Bool.eq_iff_iff]
  simp [differs, bothKnown, order]

@[simp] theorem differs_int (i j : Int) : (int i).differs (int j) = (i != j) := by
  rw [Bool.eq_iff_iff]
  simp [differs, bothKnown, order]

@[simp] theorem isBelow_int (i j : Int) : (int i).isBelow (int j) = decide (i < j) := by
  rw [Bool.eq_iff_iff]
  simp [isBelow, bothKnown, order, Int.compare_eq_lt]

/-- Every text but the empty one comes after the empty one. -/
theorem isAbove_text_empty {s : String} (h : s ≠ "") : (text s).isAbove (text "") = true := by
  have horder : (text s).order (text "") = .gt := by
    simp only [order, compare, String.compare, compareOfLessAndEq]
    rw [if_neg ?_, if_neg h]
    intro hlt
    simpa using String.lt_iff.1 hlt
  rw [isAbove, horder]
  rfl

@[simp] theorem differs_flag_zero (b : Bool) : (flag b).differs (int 0) = b := by
  cases b <;> rfl

@[simp] theorem equals_flag_zero (b : Bool) : (flag b).equals (int 0) = !b := by
  cases b <;> rfl

/-! ## Integers that may be absent -/

/-- The cell of an integer that may be absent. -/
def ofInt? : Option Int → Cell
  | none => null
  | some i => int i

@[simp] theorem readInt_ofInt? (index : Int) (column : String) (o : Option Int) :
    (ofInt? o).readInt index column = .ok o := by
  cases o <;> rfl

@[simp] theorem readFlag_flag (index : Int) (column : String) (b : Bool) :
    (flag b).readFlag index column = .ok (some b) := by
  cases b <;> rfl

/-- The integer that a cell holds. -/
def int? : Cell → Option Int
  | int i => some i
  | _ => none

theorem max_int (i j : Int) : (int i).max (int j) = int (Max.max i j) := by
  simp only [Cell.max, order, beq_iff_eq, Int.compare_eq_lt]
  split
  · rw [Int.max_eq_right (by omega)]
  · rw [Int.max_eq_left (by omega)]

theorem foldl_max_int (i : Int) (is : List Int) :
    (is.map int).foldl .max (int i) = int (is.foldl Max.max i) := by
  induction is generalizing i with
  | nil => rfl
  | cons j is ih => rw [List.map_cons, List.foldl_cons, max_int, ih, List.foldl_cons]

/-- The greatest of cells that hold integers. -/
theorem foldl_max_null (is : List Int) : (is.map int).foldl .max null = ofInt? is.max? := by
  cases is with
  | nil => rfl
  | cons i is => exact foldl_max_int i is

end Cell

end RevisionLog
