import RevisionLog.Engine.Length

/-!
# What is too long

A row takes the bytes of its texts and byte strings and little more: between 10 and 74 bytes for its
marks and numbers (`StoredRow.bytes_le_length`, `StoredRow.length_le`). So a row that fits holds
nothing that is too long for a statement (`StoredRow.isBindable_of_fits`), and the row of a
watermark always fits. What is too long for a statement fails with the result code 18, as does a row
that is too long for the table (`StoredRow.bound_error`, `Fault.tooBig`).

`Draft.bytes_le_of_fits` and `Draft.fits_of_bytes_le` say in plain bytes which drafts fit.
-/

namespace RevisionLog

theorem one_le_varintLength (n : Nat) : 1 ≤ varintLength n := by
  unfold varintLength
  omega

/-- Five bytes have 35 bits. -/
theorem varintLength_le {n : Nat} (h : n < 34359738368) : varintLength n ≤ 5 := by
  unfold varintLength
  rcases Nat.eq_zero_or_pos n with rfl | hpos
  · decide
  · have : n.log2 < 35 := (Nat.log2_lt (Nat.ne_of_gt hpos)).2 h
    omega

namespace Cell

variable {c : Cell}

theorem intLength_le (i : Int) : intLength i ≤ 8 := by
  unfold intLength
  dsimp only
  repeat' split
  all_goals omega

theorem isBindable_iff : c.isBindable = true ↔ c.bytes ≤ lengthLimit := by
  simp [isBindable]

theorem bytes_lt_storedLength (c : Cell) : c.bytes + 1 ≤ c.storedLength := by
  cases c with
  | text s =>
    have := one_le_varintLength (2 * s.utf8ByteSize + 13)
    simp only [bytes, storedLength, markLength]
    omega
  | blob b =>
    have := one_le_varintLength (2 * b.length + 12)
    simp only [bytes, storedLength, markLength]
    omega
  | _ => simp [bytes, storedLength, markLength]

theorem storedLength_le (h : c.isBindable = true) : c.storedLength ≤ c.bytes + 9 := by
  rw [isBindable_iff] at h
  unfold lengthLimit at h
  cases c with
  | text s =>
    simp only [bytes] at h
    have : varintLength (2 * s.utf8ByteSize + 13) ≤ 5 := varintLength_le (by omega)
    simp only [bytes, storedLength, markLength]
    omega
  | blob b =>
    simp only [bytes] at h
    have : varintLength (2 * b.length + 12) ≤ 5 := varintLength_le (by omega)
    simp only [bytes, storedLength, markLength]
    omega
  | int i =>
    have := intLength_le i
    simp only [bytes, storedLength, markLength]
    omega
  | _ => simp [bytes, storedLength, markLength]

theorem bound_ok (h : c.isBindable = true) : c.bound = .ok () := if_pos h

theorem bound_error (h : c.isBindable = false) : ∃ said, c.bound = .error (.failure 18 said) := by
  simp only [bound, h]
  by_cases hpass : c.bytes < passLimit
  · exact ⟨_, by simp [hpass, Fault.tooBig]; rfl⟩
  · exact ⟨_, by simp [hpass, Fault.overlong]; rfl⟩

/-! ## Several cells -/

variable {cs : List Cell}

theorem total_cons (f : Cell → Nat) (c : Cell) (cs : List Cell) :
    total f (c :: cs) = f c + total f cs := rfl

theorem total_bytes_le (cs : List Cell) :
    total (·.bytes) cs + cs.length ≤ total (·.storedLength) cs := by
  induction cs with
  | nil => exact Nat.le_refl _
  | cons c cs ih =>
    have := c.bytes_lt_storedLength
    simp only [total_cons, List.length_cons]
    omega

theorem total_storedLength_le (h : ∀ c ∈ cs, c.isBindable = true) :
    total (·.storedLength) cs ≤ total (·.bytes) cs + 9 * cs.length := by
  induction cs with
  | nil => exact Nat.le_refl _
  | cons c cs ih =>
    have := storedLength_le (h c (.head _))
    have := ih fun c hc => h c (.tail _ hc)
    simp only [total_cons, List.length_cons]
    omega

theorem bytes_le_total (h : c ∈ cs) : c.bytes ≤ total (·.bytes) cs := by
  induction h with
  | head => exact Nat.le_add_right _ _
  | tail _ _ ih =>
    simp only [total_cons]
    omega

theorem forM_bound_ok (h : ∀ c ∈ cs, c.isBindable = true) : cs.forM (·.bound) = .ok () := by
  induction cs with
  | nil => rfl
  | cons c cs ih =>
    show (c.bound >>= fun _ => cs.forM (·.bound)) = _
    rw [bound_ok (h c (.head _)), ih fun c hc => h c (.tail _ hc)]
    rfl

/-- The first cell that is too long fails. -/
theorem forM_bound_error (h : cs.all (·.isBindable) = false) :
    ∃ said, cs.forM (·.bound) = .error (.failure 18 said) := by
  induction cs with
  | nil => cases h
  | cons c cs ih =>
    show ∃ said, (c.bound >>= fun _ => cs.forM (·.bound)) = _
    cases hc : c.isBindable with
    | true =>
      obtain ⟨said, hrest⟩ := ih (by simpa [hc] using h)
      exact ⟨said, by rw [bound_ok hc, hrest]; rfl⟩
    | false =>
      obtain ⟨said, he⟩ := bound_error hc
      exact ⟨said, by rw [he]; rfl⟩

end Cell

namespace StoredRow

variable {r : StoredRow}

/-- The bytes of the texts and byte strings of a row. -/
def bytes (r : StoredRow) : Nat := Cell.total (·.bytes) r.cells

theorem length_cells (r : StoredRow) : r.cells.length = 8 := rfl

theorem isBindable_iff : r.isBindable = true ↔ ∀ c ∈ r.cells, c.isBindable = true :=
  List.all_eq_true

theorem fits_iff : r.fits = true ↔ r.length ≤ lengthLimit := by
  simp [fits]

theorem bytes_le_length (r : StoredRow) : r.bytes + 10 ≤ r.length := by
  have := Cell.total_bytes_le r.cells
  simp only [bytes, length, length_cells] at this ⊢
  omega

theorem length_le (h : r.isBindable = true) : r.length ≤ r.bytes + 74 := by
  have := Cell.total_storedLength_le (isBindable_iff.1 h)
  simp only [bytes, length, length_cells] at this ⊢
  omega

theorem isBindable_of_bytes_le (h : r.bytes ≤ lengthLimit) : r.isBindable = true :=
  isBindable_iff.2 fun _ hc => Cell.isBindable_iff.2 (Nat.le_trans (Cell.bytes_le_total hc) h)

/-- What fits into the table can be bound to a statement. -/
theorem isBindable_of_fits (h : r.fits = true) : r.isBindable = true := by
  have := fits_iff.1 h
  have := r.bytes_le_length
  exact isBindable_of_bytes_le (by omega)

theorem fits_of_bytes_le (h : r.bytes + 74 ≤ lengthLimit) : r.fits = true := by
  have := length_le (r := r) (isBindable_of_bytes_le (by omega))
  exact fits_iff.2 (by omega)

theorem bound_ok (h : r.isBindable = true) : r.bound = .ok () :=
  Cell.forM_bound_ok (isBindable_iff.1 h)

theorem bound_error (h : r.isBindable = false) : ∃ said, r.bound = .error (.failure 18 said) :=
  Cell.forM_bound_error h

/-- A watermark has no bytes but those of its name. -/
theorem bytes_watermark (revision id : Int) : (watermark revision id).bytes = 15 := rfl

theorem fits_watermark (revision id : Int) : (watermark revision id).fits = true :=
  fits_of_bytes_le (by rw [bytes_watermark]; decide)

end StoredRow

namespace Draft

variable (d : Draft)

/-- The bytes of a draft's name and values. -/
def bytes : Nat := d.name.utf8ByteSize + d.value.length + d.oldValue.length

@[simp] theorem fits_row (id : Int) : (d.row id).fits = d.fits := rfl

theorem bytes_row (id : Int) : (d.row id).bytes = d.bytes := by
  simp [StoredRow.bytes, StoredRow.cells, Cell.total, row, Cell.bytes, Cell.flag, bytes,
    Nat.add_assoc]

variable {d}

theorem isBindable_of_bytes_le (h : d.bytes ≤ lengthLimit) : d.isBindable = true :=
  StoredRow.isBindable_of_bytes_le (by rwa [bytes_row])

theorem fits_of_bytes_le (h : d.bytes + 74 ≤ lengthLimit) : d.fits = true :=
  StoredRow.fits_of_bytes_le (by rwa [bytes_row])

theorem bytes_le_of_fits (h : d.fits = true) : d.bytes + 10 ≤ lengthLimit := by
  have := StoredRow.fits_iff.1 h
  have := (d.row 0).bytes_le_length
  rw [bytes_row] at this
  omega

end Draft

end RevisionLog
