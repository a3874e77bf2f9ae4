import RevisionLog.Proofs.LoggedRow

/-!
# Histories

A history holds every record of keys that was ever appended, the newest first, whether a sweep has
removed it since or not. `Written reach past`: each record of `past` continues the last record of
its name before it (`Continues`), where no sweep has gone above `reach`. It follows that a record
names the one of its name directly before it (`Written.leader`), that one which is superseded is
named by another (`Written.follower`), that the birth of a record is the last creation of its name
(`Written.birth_eq`), and that a record holds the value before it (`Written.oldValue_eq`).
-/

namespace RevisionLog

namespace History

/-- The last record of a name. -/
def latest (past : List Record) (name : String) : Option Record := past.find? (·.name == name)

/-- The record that began the lifetime a record belongs to: the last creation of its name that is
not after it. -/
def beginning (past : List Record) (r : Record) : Option Record :=
  past.find? fun h => h.name == r.name && h.created && h.id ≤ r.id

/-- The record of the same name directly before a record. -/
def before (past : List Record) (r : Record) : Option Record :=
  past.find? fun h => h.name == r.name && h.id < r.id

/-- The id of the newest record, or 0. -/
def newest (past : List Record) : Int := (past.head?.map (·.id)).getD 0

/-- The record begins a lifetime. -/
structure Begins (r : Record) : Prop where
  created : r.created = true
  deleted : r.deleted = false
  createRevision : r.createRevision = 0
  oldValue : r.oldValue = []

/-- The record is the next version in the lifetime of `h`. -/
structure Extends (h r : Record) : Prop where
  created : r.created = false
  createRevision : r.createRevision = h.birth
  prevRevision : r.prevRevision = h.id
  oldValue : r.oldValue = h.value

/-- What a record may be when `last` is the last record of its name: the first one, the next version
of a live one, or a new lifetime after a tombstone. A new lifetime names the tombstone, unless a
sweep has removed it. -/
inductive Continues (reach : Int) : Option Record → Record → Prop
  | first {r : Record} : Begins r → r.prevRevision = 0 → Continues reach none r
  | next {h r : Record} : h.deleted = false → Extends h r → Continues reach (some h) r
  | again {h r : Record} : h.deleted = true → Begins r →
      r.prevRevision = h.id ∨ (r.prevRevision = 0 ∧ h.id ≤ reach) → Continues reach (some h) r

/-- A history in which each record continues the one of its name before it. -/
inductive Written (reach : Int) : List Record → Prop
  | nil : Written reach []
  | cons {r : Record} {past : List Record} : 0 < r.id → (∀ h ∈ past, h.id < r.id) →
      Continues reach (latest past r.name) r → Written reach past → Written reach (r :: past)

theorem Continues.mono {reach reach' : Int} (hle : reach ≤ reach') {last : Option Record}
    {r : Record} (h : Continues reach last r) : Continues reach' last r := by
  cases h with
  | first hb hp => exact .first hb hp
  | next hl he => exact .next hl he
  | again hd hb hp => exact .again hd hb (hp.imp id fun ⟨h0, hr⟩ => ⟨h0, by omega⟩)

/-! ## The last record of a name -/

theorem find?_congr_mem {past : List Record} {p q : Record → Bool} (h : ∀ k ∈ past, p k = q k) :
    past.find? p = past.find? q := by
  rw [← List.head?_filter, ← List.head?_filter, List.filter_congr h]

theorem latest_mem {past : List Record} {name : String} {l : Record}
    (h : latest past name = some l) : l ∈ past ∧ l.name = name :=
  ⟨List.mem_of_find?_eq_some h, by simpa using List.find?_some h⟩

theorem latest_eq_none {past : List Record} {name : String} :
    latest past name = none ↔ ∀ h ∈ past, h.name ≠ name := by
  simp [latest]

theorem latest_cons (r : Record) (past : List Record) (name : String) :
    latest (r :: past) name = if r.name = name then some r else latest past name := by
  by_cases h : r.name = name <;> simp [latest, h]

theorem exists_latest {past : List Record} {g : Record} (hg : g ∈ past) :
    ∃ l, latest past g.name = some l := by
  cases h : latest past g.name with
  | none => exact absurd rfl (latest_eq_none.1 h g hg)
  | some l => exact ⟨l, rfl⟩

namespace Written

variable {reach : Int} {past : List Record}

theorem mono {reach' : Int} (hle : reach ≤ reach') (h : Written reach past) :
    Written reach' past := by
  induction h with
  | nil => exact .nil
  | cons hpos hnew hc _ ih => exact .cons hpos hnew (hc.mono hle) ih

theorem pos (h : Written reach past) : ∀ r ∈ past, 0 < r.id := by
  induction h with
  | nil => simp
  | cons hpos _ _ _ ih =>
    intro g hg
    rcases List.mem_cons.1 hg with rfl | hg
    · exact hpos
    · exact ih g hg

/-- Ids descend. -/
theorem descending (h : Written reach past) : past.Pairwise (fun b a => a.id < b.id) := by
  induction h with
  | nil => exact .nil
  | cons _ hnew _ _ ih => exact List.pairwise_cons.2 ⟨hnew, ih⟩

theorem eq_of_id (h : Written reach past) {a b : Record} (ha : a ∈ past) (hb : b ∈ past)
    (he : a.id = b.id) : a = b := by
  induction h with
  | nil => simp at ha
  | cons _ hnew _ _ ih =>
    rcases List.mem_cons.1 ha with rfl | ha' <;> rcases List.mem_cons.1 hb with rfl | hb'
    · rfl
    · have := hnew b hb'; omega
    · have := hnew a ha'; omega
    · exact ih ha' hb'

theorem le_newest (h : Written reach past) : ∀ g ∈ past, g.id ≤ newest past := by
  cases h with
  | nil => simp
  | cons _ hnew _ _ =>
    intro g hg
    rcases List.mem_cons.1 hg with rfl | hg
    · exact Int.le_refl _
    · exact Int.le_of_lt (hnew g hg)

theorem le_latest (h : Written reach past) {g l : Record} (hl : latest past g.name = some l)
    (hg : g ∈ past) : g.id ≤ l.id := by
  induction h with
  | nil => simp at hg
  | @cons r past _ hnew _ _ ih =>
    rw [latest_cons] at hl
    rcases List.mem_cons.1 hg with rfl | hg
    · simp at hl; simp [hl]
    · by_cases hn : r.name = g.name
      · rw [if_pos hn, Option.some.injEq] at hl
        subst hl
        exact Int.le_of_lt (hnew g hg)
      · rw [if_neg hn] at hl
        exact ih hl hg

/-! ## Leaders and followers -/

/-- A record that is live, or above the reach of sweeps, and has a later one of its name has a
follower that names it. -/
theorem follower (h : Written reach past) {a g : Record} (ha : a ∈ past)
    (hl : a.deleted = false ∨ reach < a.id) (hg : g ∈ past) (hn : g.name = a.name)
    (hlt : a.id < g.id) :
    ∃ b ∈ past, b.name = a.name ∧ a.id < b.id ∧ b.id ≤ g.id ∧ b.prevRevision = a.id := by
  induction h generalizing g with
  | nil => simp at ha
  | @cons r past hpos hnew hc hw ih =>
    have ha' : a ∈ past := by
      rcases List.mem_cons.1 ha with rfl | ha'
      · rcases List.mem_cons.1 hg with rfl | hg'
        · omega
        · have := hnew g hg'; omega
      · exact ha'
    have lift : ∀ g' ∈ past, g'.name = a.name → a.id < g'.id → g'.id ≤ g.id →
        ∃ b ∈ r :: past, b.name = a.name ∧ a.id < b.id ∧ b.id ≤ g.id ∧ b.prevRevision = a.id := by
      intro g' hg' hn' hlt' hle
      obtain ⟨b, hb, hbn, hab, hbg, hbp⟩ := ih ha' hg' hn' hlt'
      exact ⟨b, .tail _ hb, hbn, hab, by omega, hbp⟩
    rcases List.mem_cons.1 hg with rfl | hg'
    · -- the newest record: it names `a`, or the last record before it, which is later than `a`
      obtain ⟨l, hll⟩ := exists_latest ha'
      obtain ⟨hlm, hln⟩ := latest_mem hll
      rw [hn, hll] at hc
      by_cases hal : l = a
      · subst hal
        refine ⟨g, .head _, hn, hlt, Int.le_refl _, ?_⟩
        cases hc with
        | next _ he => exact he.prevRevision
        | again hd _ hp =>
          rcases hp with hp | ⟨-, hr⟩
          · exact hp
          · rcases hl with hl | hl
            · rw [hd] at hl; cases hl
            · omega
      · have hle := hw.le_latest hll ha'
        have hne : a.id ≠ l.id := fun he => hal (hw.eq_of_id ha' hlm he).symm
        exact lift l hlm hln (by omega) (Int.le_of_lt (hnew l hlm))
    · exact lift g hg' hn hlt (Int.le_refl _)

/-- The record that a record names: it is the one of the same name directly before. -/
theorem leader (h : Written reach past) {b : Record} (hb : b ∈ past) (hp : b.prevRevision ≠ 0) :
    ∃ a ∈ past, a.name = b.name ∧ a.id = b.prevRevision ∧ a.id < b.id ∧
      ∀ g ∈ past, g.name = b.name → g.id ≤ a.id ∨ b.id ≤ g.id := by
  induction h with
  | nil => simp at hb
  | @cons r past hpos hnew hc hw ih =>
    rcases List.mem_cons.1 hb with rfl | hb'
    · obtain ⟨a, hla, hpa⟩ : ∃ a, latest past b.name = some a ∧ b.prevRevision = a.id := by
        generalize latest past b.name = last at hc ⊢
        cases hc with
        | first _ h0 => exact absurd h0 hp
        | next _ he => exact ⟨_, rfl, he.prevRevision⟩
        | again _ _ hor => exact ⟨_, rfl, hor.resolve_right fun h0 => hp h0.1⟩
      obtain ⟨ham, han⟩ := latest_mem hla
      refine ⟨a, .tail _ ham, han, hpa.symm, hnew a ham, fun g hg hgn => ?_⟩
      rcases List.mem_cons.1 hg with rfl | hg
      · exact .inr (Int.le_refl _)
      · exact .inl (hw.le_latest (hgn ▸ hla) hg)
    · obtain ⟨a, ha, han, hai, hab, hbetween⟩ := ih hb'
      refine ⟨a, .tail _ ha, han, hai, hab, fun g hg hgn => ?_⟩
      rcases List.mem_cons.1 hg with rfl | hg
      · exact .inr (Int.le_of_lt (hnew b hb'))
      · exact hbetween g hg hgn

/-- A name that has a record has one that names none. -/
theorem exists_first (h : Written reach past) {g : Record} (hg : g ∈ past) :
    ∃ b ∈ past, b.name = g.name ∧ b.prevRevision = 0 := by
  induction h generalizing g with
  | nil => simp at hg
  | @cons r past _ _ hc _ ih =>
    have lift : ∀ g' ∈ past, g'.name = g.name →
        ∃ b ∈ r :: past, b.name = g.name ∧ b.prevRevision = 0 := by
      intro g' hg' hn
      obtain ⟨b, hb, hbn, hp⟩ := ih hg'
      exact ⟨b, .tail _ hb, hbn.trans hn, hp⟩
    rcases List.mem_cons.1 hg with rfl | hg'
    · cases hl : latest past g.name with
      | none =>
        rw [hl] at hc
        cases hc with
        | first _ hp => exact ⟨g, .head _, rfl, hp⟩
      | some l => exact lift l (latest_mem hl).1 (latest_mem hl).2
    · exact lift g hg' rfl

/-- Where the last record of a name is no longer the one that an end of the history has last, some
record names that one, or none if there was none. As long as nothing is swept. -/
theorem named_of_superseded (h : Written 0 past) {old : List Record} (hold : old <:+ past)
    {name : String} (hne : latest past name ≠ latest old name) :
    ∃ b ∈ past, b.name = name ∧ b.prevRevision = ((latest old name).map (·.id)).getD 0 := by
  cases ha : latest old name with
  | none =>
    rw [ha] at hne
    obtain ⟨l, hl⟩ := Option.ne_none_iff_exists'.1 hne
    obtain ⟨hlm, hln⟩ := latest_mem hl
    obtain ⟨b, hb, hbn, hp⟩ := h.exists_first hlm
    exact ⟨b, hb, hbn.trans hln, hp⟩
  | some a =>
    obtain ⟨hao, han⟩ := latest_mem ha
    have ham := hold.subset hao
    obtain ⟨l, hl⟩ := exists_latest ham
    have hle := h.le_latest hl ham
    rw [han] at hl
    obtain ⟨hlm, hln⟩ := latest_mem hl
    have hid : a.id ≠ l.id := fun he => hne (by rw [hl, ha, h.eq_of_id ham hlm he])
    obtain ⟨b, hb, hbn, -, -, hp⟩ :=
      h.follower ham (.inr (h.pos a ham)) hlm (hln.trans han.symm) (by omega)
    exact ⟨b, hb, hbn.trans han, hp⟩

/-! ## Lifetimes -/

/-- A record is born when its lifetime begins. -/
theorem birth_eq (h : Written reach past) {r : Record} (hr : r ∈ past) :
    ∃ b, beginning past r = some b ∧ r.birth = b.id := by
  induction h generalizing r with
  | nil => simp at hr
  | @cons g past hpos hnew hc hw ih =>
    rcases List.mem_cons.1 hr with rfl | hr'
    · -- a creation is its own beginning, any other version begins where the one before it does
      by_cases hcr : r.created = true
      · have h0 : r.createRevision = 0 := by
          generalize latest past r.name = last at hc
          cases hc with
          | first hb _ => exact hb.createRevision
          | next _ he => rw [he.created] at hcr; cases hcr
          | again _ hb _ => exact hb.createRevision
        exact ⟨r, by simp [beginning, hcr], by simp [Record.birth, hcr, h0]⟩
      · obtain ⟨l, hll, he⟩ : ∃ l, latest past r.name = some l ∧ Extends l r := by
          generalize latest past r.name = last at hc ⊢
          cases hc with
          | first hb _ => exact absurd hb.created hcr
          | next _ he => exact ⟨_, rfl, he⟩
          | again _ hb _ => exact absurd hb.created hcr
        obtain ⟨hlm, hln⟩ := latest_mem hll
        obtain ⟨b, hb, hlb⟩ := ih hlm
        have hbirth : r.birth = l.birth := by
          rw [← he.createRevision]
          simp [Record.birth, hcr]
        refine ⟨b, ?_, hbirth.trans hlb⟩
        rw [← hb, beginning, List.find?_cons_of_neg (by simp [hcr])]
        refine find?_congr_mem fun k hk => ?_
        by_cases hkn : k.name = r.name
        · have hkl := hw.le_latest (hkn ▸ hll) hk
          have hkr := hnew k hk
          simp [hkn, hln, hkl, Int.le_of_lt hkr]
        · have hkf : (k.name == r.name) = false := by simpa using hkn
          simp [hkf, hln]
    · obtain ⟨b, hb, hrb⟩ := ih hr'
      have hgr := hnew r hr'
      refine ⟨b, ?_, hrb⟩
      rw [← hb, beginning, List.find?_cons_of_neg (by simp; omega)]
      rfl

/-- A creation holds no old value, and any other record that of the one before it. -/
theorem oldValue_eq (h : Written reach past) {r : Record} (hr : r ∈ past) :
    (r.created = true → r.oldValue = []) ∧
      (r.created = false → ∃ b, before past r = some b ∧ r.oldValue = b.value) := by
  induction h generalizing r with
  | nil => simp at hr
  | @cons g past hpos hnew hc hw ih =>
    rcases List.mem_cons.1 hr with rfl | hr'
    · have hbefore : before (r :: past) r = latest past r.name := by
        rw [before, List.find?_cons_of_neg (by simp)]
        refine find?_congr_mem fun k hk => ?_
        simp [hnew k hk]
      rw [hbefore]
      generalize latest past r.name = last at hc
      cases hc with
      | first hb _ => simp [hb.created, hb.oldValue]
      | next _ he => simp [he.created, he.oldValue]
      | again _ hb _ => simp [hb.created, hb.oldValue]
    · have hgr := hnew r hr'
      have hbefore : before (g :: past) r = before past r := by
        rw [before, List.find?_cons_of_neg (by simp; omega)]
        rfl
      rw [hbefore]
      exact ih hr'

/-- The beginning of a record is the last creation of its name that is not after it. -/
theorem le_beginning (h : Written reach past) {b r g : Record} (hb : beginning past r = some b)
    (hg : g ∈ past) (hn : g.name = r.name) (hc : g.created = true) (hle : g.id ≤ r.id) :
    g.id ≤ b.id := by
  obtain ⟨-, later, earlier, rfl, hlater⟩ := List.find?_eq_some_iff_append.1 hb
  rcases List.mem_append.1 hg with hg | hg
  · have := hlater g hg
    simp [hn, hc, hle] at this
  · rcases List.mem_cons.1 hg with rfl | hg
    · exact Int.le_refl _
    · have hd := (List.pairwise_append.1 h.descending).2.1
      exact Int.le_of_lt ((List.pairwise_cons.1 hd).1 g hg)

/-- A later record of a name has the birth of an earlier one, unless its name was created between:
then it is born later. -/
theorem birth_lifetime (h : Written reach past) {a b : Record} (ha : a ∈ past) (hb : b ∈ past)
    (hn : a.name = b.name) (hle : a.id ≤ b.id) :
    if ∃ g ∈ past, g.name = b.name ∧ g.created = true ∧ a.id < g.id ∧ g.id ≤ b.id then
      a.birth < b.birth
    else a.birth = b.birth := by
  obtain ⟨x, hx, hax⟩ := h.birth_eq ha
  obtain ⟨y, hy, hby⟩ := h.birth_eq hb
  split
  · rename_i hnew
    obtain ⟨g, hg, hgn, hgc, hag, hgb⟩ := hnew
    have hxa : x.id ≤ a.id := by
      have := List.find?_some hx
      simp only [Bool.and_eq_true, decide_eq_true_eq] at this
      exact this.2
    have hgy := h.le_beginning hy hg hgn hgc hgb
    omega
  · rename_i hnone
    have hxy : beginning past a = beginning past b := by
      refine find?_congr_mem fun k hk => ?_
      by_cases hkb : k.name = b.name ∧ k.created = true
      · have : ¬(a.id < k.id ∧ k.id ≤ b.id) := fun hk' => hnone ⟨k, hk, hkb.1, hkb.2, hk'⟩
        have : k.id ≤ a.id ↔ k.id ≤ b.id := by omega
        simp [hn, this]
      · by_cases hkn : k.name = b.name
        · have hkc : k.created = false := by simpa [hkn] using hkb
          simp [hkc]
        · have hkf : (k.name == b.name) = false := by simpa using hkn
          simp [hn, hkf]
    rw [hxy, hy, Option.some.injEq] at hx
    rw [hax, hby, hx]

end Written

end History

end RevisionLog
