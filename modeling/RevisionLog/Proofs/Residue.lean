import RevisionLog.Proofs.History
import Mathlib.Data.List.Chain

/-!
# What sweeps leave of a history

A sweep up to a revision leaves the records above it and, of each name, the last record that is not
above it, if that is live. `History.remains reach past r`: sweeps that have gone up to `reach` have
left `r`; `History.remaining` are the records of a name that are left.

* What is left of a name is the end of its history, and the last record of a name is left unless it
  is a tombstone (`Written.remaining_head`).
* Each record that is left names the one before it that is left, and the first one names none, or
  one that is gone (`Written.remaining_chain`, `Written.remaining_first`).
* A sweep goes by the records that are left alone, and yet leaves what the whole history says
  (`Written.remains_sweep`): a record that is superseded up to the target is named by one that is
  still there.
-/

namespace RevisionLog

namespace History

/-- Sweeps up to `reach` leave the record. -/
def remains (reach : Int) (past : List Record) (r : Record) : Bool :=
  reach < r.id ||
    (!r.deleted && past.all fun g => g.name != r.name || g.id ≤ r.id || reach < g.id)

/-- The records of a name that sweeps up to `reach` leave. -/
def remaining (reach : Int) (past : List Record) (name : String) : List Record :=
  past.filter fun r => r.name == name && remains reach past r

variable {reach : Int} {past : List Record}

theorem remains_iff {r : Record} : remains reach past r = true ↔
    reach < r.id ∨ (r.deleted = false ∧
      ∀ g ∈ past, g.name = r.name → r.id < g.id → reach < g.id) := by
  simp only [remains, Bool.or_eq_true, Bool.and_eq_true, decide_eq_true_eq, Bool.not_eq_true',
    List.all_eq_true, bne_iff_ne]
  refine or_congr_right (and_congr_right fun _ => forall₂_congr fun g _ => ?_)
  constructor
  · rintro ((h | h) | h) hn hlt
    · exact absurd hn h
    · omega
    · exact h
  · intro h
    by_cases hn : g.name = r.name
    · by_cases hlt : r.id < g.id
      · exact .inr (h hn hlt)
      · exact .inl (.inr (by omega))
    · exact .inl (.inl hn)

theorem mem_remaining {name : String} {r : Record} :
    r ∈ remaining reach past name ↔ r ∈ past ∧ r.name = name ∧ remains reach past r = true := by
  simp [remaining]

/-- What a longer sweep leaves, a shorter one leaves too. -/
theorem remains_anti {reach' : Int} (hle : reach ≤ reach') {r : Record}
    (h : remains reach' past r = true) : remains reach past r = true := by
  rw [remains_iff] at h ⊢
  rcases h with h | ⟨hd, hall⟩
  · exact .inl (by omega)
  · exact .inr ⟨hd, fun g hg hn hlt => by have := hall g hg hn hlt; omega⟩

/-- A longer sweep leaves of what a shorter one has left what it leaves of the history. -/
theorem remaining_filter {reach' : Int} (hle : reach ≤ reach') (name : String) :
    (remaining reach past name).filter (remains reach' past) = remaining reach' past name := by
  rw [remaining, List.filter_filter]
  refine List.filter_congr fun r _ => ?_
  cases hrem : remains reach' past r with
  | false => simp
  | true => simp [remains_anti hle hrem]

/-! ## A new record -/

theorem remains_cons {r : Record} (hr : reach < r.id) (g : Record) :
    remains reach (r :: past) g = remains reach past g := by
  simp [remains, hr]

theorem remaining_cons {r : Record} (hr : reach < r.id) (name : String) :
    remaining reach (r :: past) name =
      if r.name = name then r :: remaining reach past name else remaining reach past name := by
  have hself : remains reach past r = true := remains_iff.2 (.inl hr)
  simp only [remaining, remains_cons hr]
  by_cases hn : r.name = name
  · rw [if_pos hn, List.filter_cons_of_pos (by simp [hn, hself])]
  · rw [if_neg hn, List.filter_cons_of_neg (by simp [hn])]

/-! ## The records of a name that are left -/

/-- The last record of a name is left, unless it is a tombstone that sweeps have reached: then
nothing of the name is left. -/
theorem Written.remaining_head (h : Written reach past) (name : String) :
    (remaining reach past name).head? = latest past name ∨
      (remaining reach past name = [] ∧
        ∃ l, latest past name = some l ∧ l.deleted = true ∧ l.id ≤ reach) := by
  cases hl : latest past name with
  | none =>
    refine .inl ?_
    have : remaining reach past name = [] :=
      List.filter_eq_nil_iff.2 fun g hg => by simp [latest_eq_none.1 hl g hg]
    rw [this]
    rfl
  | some l =>
    obtain ⟨hlm, hln⟩ := latest_mem hl
    by_cases hrem : remains reach past l = true
    · refine .inl ?_
      obtain ⟨-, later, earlier, he, hlater⟩ := List.find?_eq_some_iff_append.1 hl
      rw [remaining, List.head?_filter]
      refine List.find?_eq_some_iff_append.2 ⟨by simp [hln, hrem], later, earlier, he, ?_⟩
      intro g hg
      have := hlater g hg
      simp only [Bool.not_eq_true'] at this
      simp [this]
    · have hlast : ∀ g ∈ past, g.name = name → g.id ≤ l.id := fun g hg hgn =>
        h.le_latest (hgn ▸ hl) hg
      have hgone : l.id ≤ reach ∧ l.deleted = true := by
        rw [remains_iff] at hrem
        refine ⟨by omega, ?_⟩
        cases hd : l.deleted with
        | true => rfl
        | false =>
          refine absurd (.inr ⟨hd, fun g hg hgn hlt => ?_⟩) hrem
          have := hlast g hg (hgn.trans hln)
          omega
      refine .inr ⟨List.filter_eq_nil_iff.2 fun g hg => ?_, l, rfl, hgone.2, hgone.1⟩
      simp only [Bool.and_eq_true, beq_iff_eq, not_and]
      intro hgn hg'
      have hle := hlast g hg hgn
      rcases remains_iff.1 hg' with hlt | ⟨hd, hall⟩
      · omega
      · by_cases he : g.id = l.id
        · rw [h.eq_of_id hg hlm he, hgone.2] at hd
          cases hd
        · have := hall l hlm (hln.trans hgn.symm) (by omega)
          omega

/-- A record that is left and has a later one of its name is named by one that is above the
reach of sweeps. -/
theorem Written.remains_follower (h : Written reach past) {a g : Record} (ha : a ∈ past)
    (hrem : remains reach past a = true) (hg : g ∈ past) (hn : g.name = a.name)
    (hlt : a.id < g.id) :
    ∃ b ∈ past, b.name = a.name ∧ a.id < b.id ∧ b.id ≤ g.id ∧ b.prevRevision = a.id ∧
      reach < b.id := by
  have hor : a.deleted = false ∨ reach < a.id :=
    (remains_iff.1 hrem).elim .inr fun h' => .inl h'.1
  obtain ⟨b, hb, hbn, hab, hbg, hbp⟩ := h.follower ha hor hg hn hlt
  refine ⟨b, hb, hbn, hab, hbg, hbp, ?_⟩
  rcases remains_iff.1 hrem with hr | ⟨-, hall⟩
  · omega
  · exact hall b hb hbn hab

/-- A list by descending ids in which each element but the first has a neighbour above it. -/
theorem isChain_of_between {l : List Record} {R : Record → Record → Prop}
    (hd : l.Pairwise fun b a => a.id < b.id)
    (h : ∀ a ∈ l, ∀ g ∈ l, a.id < g.id → ∃ b ∈ l, a.id < b.id ∧ b.id ≤ g.id ∧ R b a) :
    l.IsChain R := by
  induction l with
  | nil => exact .nil
  | cons x l ih =>
    obtain ⟨hx, hl⟩ := List.pairwise_cons.1 hd
    have htail : l.IsChain R := by
      refine ih hl fun a ha g hg hlt => ?_
      obtain ⟨b, hb, hab, hbg, hR⟩ := h a (.tail _ ha) g (.tail _ hg) hlt
      rcases List.mem_cons.1 hb with rfl | hb
      · have := hx g hg; omega
      · exact ⟨b, hb, hab, hbg, hR⟩
    cases l with
    | nil => exact .singleton _
    | cons y l =>
      refine List.isChain_cons_cons.2 ⟨?_, htail⟩
      obtain ⟨b, hb, hyb, hbx, hR⟩ := h y (.tail _ (.head _)) x (.head _) (hx y (.head _))
      rcases List.mem_cons.1 hb with rfl | hb
      · exact hR
      · -- nothing lies between neighbours
        have hle : b.id ≤ y.id := by
          rcases List.mem_cons.1 hb with rfl | hb
          · exact Int.le_refl _
          · exact Int.le_of_lt ((List.pairwise_cons.1 hl).1 b hb)
        omega

/-- Each record that is left names the one before it that is left. -/
theorem Written.remaining_chain (h : Written reach past) (name : String) :
    (remaining reach past name).IsChain fun b a => b.prevRevision = a.id ∧ a.id < b.id := by
  refine isChain_of_between (h.descending.filter _) fun a ha g hg hlt => ?_
  obtain ⟨ha, han, harem⟩ := mem_remaining.1 ha
  obtain ⟨hg, hgn, -⟩ := mem_remaining.1 hg
  obtain ⟨b, hb, hbn, hab, hbg, hbp, hbr⟩ :=
    h.remains_follower ha harem hg (hgn.trans han.symm) hlt
  exact ⟨b, mem_remaining.2 ⟨hb, hbn.trans han, remains_iff.2 (.inl hbr)⟩, hab, hbg, hbp, hab⟩

/-- The first record that is left names none, or one that is gone. -/
theorem Written.remaining_first (h : Written reach past) {name : String} {a : Record}
    (ha : (remaining reach past name).getLast? = some a) :
    a.prevRevision = 0 ∨ ∃ g ∈ past, g.id = a.prevRevision ∧ g.id < a.id ∧
      remains reach past g = false := by
  obtain ⟨later, he⟩ := List.getLast?_eq_some_iff.1 ha
  have ham : a ∈ remaining reach past name := by simp [he]
  obtain ⟨hap, han, -⟩ := mem_remaining.1 ham
  by_cases hp : a.prevRevision = 0
  · exact .inl hp
  · obtain ⟨g, hg, hgn, hgi, hlt, -⟩ := h.leader hap hp
    refine .inr ⟨g, hg, hgi, hlt, Bool.eq_false_iff.2 fun hrem => ?_⟩
    have hgm : g ∈ remaining reach past name := mem_remaining.2 ⟨hg, hgn.trans han, hrem⟩
    have hd := h.descending.filter fun r => r.name == name && remains reach past r
    rw [show past.filter _ = later ++ [a] from he, List.pairwise_append] at hd
    rw [he] at hgm
    rcases List.mem_append.1 hgm with hgm | hgm
    · have := hd.2.2 g hgm a (.head _); omega
    · have := List.mem_singleton.1 hgm
      subst this
      omega

/-- No record names the last one of a name. -/
theorem Written.prevRevision_ne_latest (h : Written reach past) {name : String} {l r : Record}
    (hl : latest past name = some l) (hr : r ∈ past) : r.prevRevision ≠ l.id := by
  intro hp
  obtain ⟨hlm, hln⟩ := latest_mem hl
  have hpos := h.pos l hlm
  obtain ⟨a, ha, han, hai, hlt, -⟩ := h.leader hr (by omega)
  have hal : a = l := h.eq_of_id ha hlm (hai.trans hp)
  subst hal
  have := h.le_latest (by rw [← han, hln]; exact hl) hr
  omega

/-! ## Sweeps -/

/-- Of the records that are left, a sweep up to `target` removes those that one up to there names,
and tombstones: these are the ones that the whole history tells it to remove. -/
theorem Written.remains_sweep (h : Written reach past) {r : Record} (hr : r ∈ past)
    (hrem : remains reach past r = true) (target : Int) :
    remains (max reach (min target (newest past))) past r = false ↔
      (∃ g ∈ past, remains reach past g = true ∧ g.prevRevision = r.id ∧ g.id ≤ target) ∨
        (r.deleted = true ∧ r.id ≤ target) := by
  have hnew := h.le_newest
  rw [← Bool.not_eq_true, remains_iff]
  constructor
  · intro hgone
    have hle : r.id ≤ max reach (min target (newest past)) := by omega
    by_cases hd : r.deleted = true
    · -- a tombstone that is left is above the reach, so it is the target that reaches it
      refine .inr ⟨hd, ?_⟩
      rcases remains_iff.1 hrem with hlt | ⟨hd', -⟩
      · omega
      · rw [hd] at hd'; cases hd'
    · have hd' : r.deleted = false := by simpa using hd
      obtain ⟨g, hg, hgn, hlt, hgle⟩ : ∃ g ∈ past, g.name = r.name ∧ r.id < g.id ∧
          g.id ≤ max reach (min target (newest past)) := by
        refine Classical.byContradiction fun hnone => hgone (.inr ⟨hd', fun g hg hgn hlt => ?_⟩)
        exact Int.not_le.1 fun hle' => hnone ⟨g, hg, hgn, hlt, hle'⟩
      obtain ⟨b, hb, -, -, hbg, hbp, hbr⟩ := h.remains_follower hr hrem hg hgn hlt
      exact .inl ⟨b, hb, remains_iff.2 (.inl hbr), hbp, by omega⟩
  · rintro (⟨g, hg, hgrem, hgp, hgt⟩ | ⟨hd, hle⟩) (hlt | ⟨hd', hall⟩)
    · have hpos := h.pos r hr
      obtain ⟨a, ha, -, hai, hag, -⟩ := h.leader hg (by omega)
      have := hnew g hg
      omega
    · have hpos := h.pos r hr
      obtain ⟨a, ha, han, hai, hag, -⟩ := h.leader hg (by omega)
      have har : a = r := h.eq_of_id ha hr (hai.trans hgp)
      subst har
      have := hall g hg han.symm hag
      have := hnew g hg
      omega
    · have := hnew r hr
      omega
    · rw [hd] at hd'; cases hd'

/-- What a sweep removes is not above the target, and in the place of a live record there is a later
one up to the target. -/
theorem Written.swept_le (h : Written reach past) {r : Record} (hr : r ∈ past)
    (hrem : remains reach past r = true) {target : Int}
    (hgone : remains (max reach (min target (newest past))) past r = false) :
    r.id ≤ target ∧ (r.deleted = false → ∃ g ∈ past, remains reach past g = true ∧
      g.name = r.name ∧ r.id < g.id ∧ g.id ≤ target) := by
  rcases (h.remains_sweep hr hrem target).1 hgone with ⟨g, hg, hgrem, hgp, hgt⟩ | ⟨hd, hle⟩
  · have hpos := h.pos r hr
    obtain ⟨a, ha, han, hai, hag, -⟩ := h.leader hg (by omega)
    have har : a = r := h.eq_of_id ha hr (hai.trans hgp)
    subst har
    exact ⟨by omega, fun _ => ⟨g, hg, hgrem, han.symm, hag, hgt⟩⟩
  · exact ⟨hle, fun hl => by rw [hl] at hd; cases hd⟩

/-- With a record every later one of its name is left. -/
theorem remains_of_le {a b : Record} (hb : b ∈ past) (hn : b.name = a.name) (hle : a.id < b.id)
    (ha : remains reach past a = true) : remains reach past b = true := by
  refine remains_iff.2 (.inl ?_)
  rcases remains_iff.1 ha with hlt | ⟨-, hall⟩
  · omega
  · exact hall b hb hn hle

end History

end RevisionLog
