import RevisionLog.Proofs.Residue
import RevisionLog.Proofs.TableSpec

/-!
# What a table keeps of a history

`Table.Keeps K t past reach`: of every name in `K`, the table `t` holds what sweeps up to `reach`
have left of the history `past`, and nothing else but rows of the sentinel. The latest record that
the table has of a name is then the last one of the history, unless a sweep has removed it
(`Keeps.latest_eq`), and a draft finds its place taken exactly if a record that is left names the
same one (`Keeps.clashes_iff`).

An empty table keeps the empty history (`Keeps.empty`), and the invariant passes on to a table with
another record (`Keeps.push`), with another row of the sentinel (`Keeps.aside`), and after a sweep
(`Keeps.sweep`). The first two are one argument (`Keeps.append`).
-/

namespace RevisionLog

namespace Table

open History

/-- The table holds what sweeps up to `reach` have left of `past`. -/
structure Keeps (K : String → Prop) (t : Table) (past : List Record) (reach : Int) : Prop where
  unique : t.isUnique = true
  /-- No id comes twice, and no new record is within the reach of sweeps. -/
  counter : ∃ last, t.ids = .counter last ∧ reach ≤ last ∧ ∀ h ∈ past, h.id ≤ last
  nonneg : 0 ≤ reach
  written : Written reach past
  names : ∀ h ∈ past, K h.name
  logged : ∀ r ∈ t.rows, r.Logged
  named : ∀ r ∈ t.rows, ∃ n, r.name = .text n ∧ (K n ∨ n = sentinelName)
  /-- A row under the id of a record is that record's. -/
  apart : ∀ r ∈ t.rows, ∀ h ∈ past, r.id = h.id → r = h.row
  rows : ∀ n, K n → t.rows.filter (·.name == .text n) =
    ((remaining reach past n).map Record.row).reverse

namespace Keeps

variable {K : String → Prop} {t t' : Table} {past : List Record} {reach : Int} {n : String}
  {id : Int}

theorem empty (hrows : t.rows = []) (hids : t.ids = .counter 0) (hu : t.isUnique = true) :
    t.Keeps K [] 0 where
  unique := hu
  counter := ⟨0, hids, Int.le_refl _, by simp⟩
  nonneg := Int.le_refl _
  written := .nil
  names := by simp
  logged := by simp [hrows]
  named := by simp [hrows]
  apart := by simp
  rows := by simp [hrows, remaining]

/-! ## What is there -/

/-- The rows of a name are those of the records that are left. -/
theorem mem_rows (h : t.Keeps K past reach) (hn : K n) {r : StoredRow} :
    r ∈ t.rows ∧ r.name = .text n ↔ ∃ b ∈ remaining reach past n, b.row = r := by
  have hr : r ∈ t.rows.filter (·.name == .text n) ↔ r ∈ t.rows ∧ r.name = .text n := by simp
  rw [← hr, h.rows n hn, List.mem_reverse, List.mem_map]

theorem row_mem (h : t.Keeps K past reach) {b : Record} (hb : b ∈ past)
    (hrem : remains reach past b = true) : b.row ∈ t.rows :=
  ((h.mem_rows (h.names b hb)).2 ⟨b, mem_remaining.2 ⟨hb, rfl, hrem⟩, rfl⟩).1

/-- A record that sweeps have removed is not there, and no other row has its id. -/
theorem id_ne (h : t.Keeps K past reach) {b : Record} (hb : b ∈ past)
    (hgone : remains reach past b = false) : ∀ r ∈ t.rows, r.id ≠ b.id := by
  intro r hr hid
  obtain rfl := h.apart r hr b hb hid
  obtain ⟨b', hb', he⟩ := (h.mem_rows (h.names b hb)).1 ⟨hr, rfl⟩
  obtain ⟨hbp, -, hrem⟩ := mem_remaining.1 hb'
  have hid' : b'.id = b.id := congrArg StoredRow.id he
  rw [h.written.eq_of_id hbp hb hid', hgone] at hrem
  cases hrem

/-- The records that the table has of a name. -/
theorem versions_eq (h : t.Keeps K past reach) (hn : K n) :
    t.versions n = ((remaining reach past n).map Record.resolved).reverse := by
  rw [versions, h.rows n hn, List.filterMap_reverse, List.filterMap_map]
  congr 1
  rw [← List.filterMap_eq_map]
  exact List.filterMap_congr fun r _ => StoredRow.record?_row r

/-- The latest record that the table has of a name. -/
theorem latest_eq (h : t.Keeps K past reach) (hn : K n) :
    t.latest n = (remaining reach past n).head?.map Record.resolved := by
  rw [latest, h.versions_eq hn, List.getLast?_reverse, List.head?_map]

/-- The place of a draft is taken if a record that is left names the same one. -/
theorem clashes_iff (h : t.Keeps K past reach) {d : Draft} (hd : K d.name) (id : Int) :
    (∃ r ∈ t.rows, r.clashes (d.row id) = true) ↔
      ∃ b ∈ remaining reach past d.name, b.prevRevision = d.prevRevision := by
  constructor
  · rintro ⟨r, hr, hclash⟩
    obtain ⟨m, hm, -⟩ := h.named r hr
    simp only [StoredRow.clashes, hm, Draft.row_eq, Record.row_name, Draft.stored_name,
      Cell.equals_text, Bool.and_eq_true, beq_iff_eq] at hclash
    obtain ⟨rfl, hp⟩ := hclash
    obtain ⟨b, hb, rfl⟩ := (h.mem_rows hd).1 ⟨hr, hm⟩
    exact ⟨b, hb, by simpa using hp⟩
  · rintro ⟨b, hb, hp⟩
    obtain ⟨hr, hname⟩ := (h.mem_rows hd).2 ⟨b, hb, rfl⟩
    exact ⟨b.row, hr, by
      rw [StoredRow.clashes, hname]
      simp [Draft.row_eq, hp]⟩

/-! ## Another row -/

/-- Another row, which is that of a record that the history has more, or of none. -/
theorem append (h : t.Keeps K past reach) {row : Int → StoredRow} (hid : ∀ i, (row i).id = i)
    (ha : t.append row = .ok (id, t')) (hlog : (row id).Logged)
    (hname : ∃ n, (row id).name = .text n ∧ (K n ∨ n = sentinelName)) {past' : List Record}
    (hw : Written reach past') (hpast : ∀ g ∈ past', g ∈ past ∨ g.row = row id ∧ K g.name)
    (hrows' : ∀ n, K n → remaining reach past' n = remaining reach past n ∧
        (row id).name ≠ .text n ∨
      ∃ g, g.row = row id ∧ g.name = n ∧ remaining reach past' n = g :: remaining reach past n) :
    t'.Keeps K past' reach := by
  obtain ⟨last, hids, hreach, hle⟩ := h.counter
  obtain ⟨rfl, hrows, hids', hix⟩ := append_inv hids hid ha
  have hcount := (t.counted last hids).2
  have hnew : ∀ g : Record, g.row = row (last + 1) → g.id = last + 1 := fun g hg => by
    rw [← hid (last + 1), ← hg, Record.row_id]
  have hmem : ∀ r ∈ t'.rows, r ∈ t.rows ∨ r = row (last + 1) := fun r hr => by
    simpa [hrows] using hr
  refine ⟨by simpa [isUnique, hix] using h.unique, ⟨last + 1, hids', by omega, fun g hg => ?_⟩,
    h.nonneg, hw, fun g hg => ?_, fun r hr => ?_, fun r hr => ?_, fun r hr g hg he => ?_,
    fun n hn => ?_⟩
  · rcases hpast g hg with hg | ⟨hg, -⟩
    · have := hle g hg; omega
    · have := hnew g hg; omega
  · rcases hpast g hg with hg | ⟨-, hg⟩
    · exact h.names g hg
    · exact hg
  · rcases hmem r hr with hr | rfl
    · exact h.logged r hr
    · exact hlog
  · rcases hmem r hr with hr | rfl
    · exact h.named r hr
    · exact hname
  · rcases hmem r hr with hr | rfl <;> rcases hpast g hg with hg | ⟨hg, -⟩
    · exact h.apart r hr g hg he
    · have := hcount r hr
      have := hnew g hg
      omega
    · have := hle g hg
      rw [hid] at he
      omega
    · exact hg.symm
  · rw [hrows, List.filter_append, h.rows n hn]
    rcases hrows' n hn with ⟨he, hne⟩ | ⟨g, hg, rfl, he⟩
    · rw [he, List.filter_cons_of_neg (by simpa using hne), List.filter_nil, List.append_nil]
    · rw [he, List.map_cons, List.reverse_cons, hg,
        List.filter_cons_of_pos (by simp [← hg]), List.filter_nil]

/-- A record that continues the history is put behind it. -/
theorem push (h : t.Keeps K past reach) {d : Draft} (hd : K d.name)
    (ha : t.append d.row = .ok (id, t'))
    (hc : Continues reach (History.latest past d.name) (d.stored id)) :
    t'.Keeps K (d.stored id :: past) reach := by
  obtain ⟨last, hids, hreach, hle⟩ := h.counter
  obtain ⟨hid, -⟩ := append_inv hids (fun _ => rfl) ha
  have hnonneg := h.nonneg
  have hnew : reach < (d.stored id).id := by
    rw [Draft.stored_id]
    omega
  refine h.append (fun _ => rfl) ha (.record (d.stored id)) ⟨d.name, rfl, .inl hd⟩
    (.cons (by omega) (fun g hg => ?_) hc h.written) (fun g hg => ?_) fun n _ => ?_
  · have := hle g hg
    rw [Draft.stored_id]
    omega
  · rcases List.mem_cons.1 hg with rfl | hg
    · exact .inr ⟨rfl, hd⟩
    · exact .inl hg
  · rw [remaining_cons hnew]
    by_cases hn : d.name = n
    · exact .inr ⟨d.stored id, rfl, hn, if_pos hn⟩
    · exact .inl ⟨if_neg hn, fun he => hn (Cell.text.inj he)⟩

/-- A row of the sentinel is no part of the history. -/
theorem aside (h : t.Keeps K past reach) (hK : ¬ K sentinelName) {row : Int → StoredRow}
    (hid : ∀ i, (row i).id = i) (hname : ∀ i, (row i).name = .text sentinelName)
    (hlog : ∀ i, (row i).Logged) (ha : t.append row = .ok (id, t')) :
    t'.Keeps K past reach := by
  refine h.append hid ha (hlog id) ⟨sentinelName, hname id, .inr rfl⟩ h.written
    (fun _ hg => .inl hg) fun n hn => .inl ⟨rfl, fun he => ?_⟩
  rw [hname, Cell.text.injEq] at he
  exact hK (he ▸ hn)

/-! ## Sweeps -/

/-- A sweep removes a record that is left if the longer reach does not leave it. -/
theorem isSwept_iff (h : t.Keeps K past reach) (hK : ¬ K sentinelName) {b : Record} (hb : b ∈ past)
    (hrem : remains reach past b = true) (target : Int) :
    t.isSwept target b.row = true ↔
      remains (max reach (min target (newest past))) past b = false := by
  rw [h.written.remains_sweep hb hrem target]
  have hbn : b.name ≠ sentinelName := fun he => hK (he ▸ h.names b hb)
  have hpos := h.written.pos b hb
  have hrepl : t.isReplaced target b.row = true ↔
      ∃ g ∈ past, remains reach past g = true ∧ g.prevRevision = b.id ∧ g.id ≤ target := by
    simp only [isReplaced, List.any_eq_true, Bool.and_eq_true, decide_eq_true_eq, Record.row_id]
    constructor
    · rintro ⟨p, hp, ⟨⟨hdiff, -⟩, hle⟩, heq⟩
      obtain ⟨m, hm, hor⟩ := h.named p hp
      have hmn : m ≠ sentinelName := by simpa [hm] using hdiff
      obtain ⟨g, hg, rfl⟩ := (h.mem_rows (hor.resolve_right hmn)).1 ⟨hp, hm⟩
      obtain ⟨hgp, -, hgr⟩ := mem_remaining.1 hg
      exact ⟨g, hgp, hgr, by simpa using heq, hle⟩
    · rintro ⟨g, hg, hgr, hgp, hle⟩
      have hgn : g.name ≠ sentinelName := fun he => hK (he ▸ h.names g hg)
      have hne : b.id ≠ 0 := by omega
      exact ⟨g.row, h.row_mem hg hgr, by simp [hgn, hgp, hne, hle]⟩
  have hsent : b.row.isSentinel = false := by simp [StoredRow.isSentinel, hbn]
  simp only [isSwept, hsent, Record.row_deleted, Cell.differs_flag_zero, Bool.false_and,
    Bool.or_false, Bool.or_eq_true, Bool.and_eq_true, decide_eq_true_eq, hrepl]
  rfl

/-- What a sweep leaves of a name. -/
theorem sweep (h : t.Keeps K past reach) (hK : ¬ K sentinelName) (target : Int) :
    (t.sweepTo target).2.Keeps K past (max reach (min target (newest past))) := by
  obtain ⟨last, hids, hreach, hle⟩ := h.counter
  have hnewest : newest past ≤ last := by
    cases past with
    | nil => exact (t.counted last hids).1
    | cons g past => exact hle g (.head _)
  refine ⟨h.unique, ⟨last, hids, by omega, hle⟩, by have := h.nonneg; omega,
    h.written.mono (by omega), h.names, ?_, ?_, ?_, ?_⟩
  · exact fun r hr => h.logged r (List.mem_filter.1 hr).1
  · exact fun r hr => h.named r (List.mem_filter.1 hr).1
  · exact fun r hr => h.apart r (List.mem_filter.1 hr).1
  · intro m hm
    have hfilter : (remaining reach past m).filter (fun b => !t.isSwept target b.row) =
        remaining (max reach (min target (newest past))) past m := by
      rw [← remaining_filter (Int.le_max_left reach (min target (newest past)))]
      refine List.filter_congr fun b hb => ?_
      obtain ⟨hbp, -, hrem⟩ := mem_remaining.1 hb
      have := h.isSwept_iff hK hbp hrem target
      rw [Bool.eq_iff_iff, Bool.not_eq_true', ← Bool.not_eq_true, this, Bool.not_eq_false]
    calc (t.rows.filter fun r => !t.isSwept target r).filter (·.name == .text m)
      _ = (t.rows.filter (·.name == .text m)).filter fun r => !t.isSwept target r := by
        simp only [List.filter_filter, Bool.and_comm]
      _ = ((remaining reach past m).filter fun b =>
            !t.isSwept target b.row).reverse.map Record.row := by
        rw [h.rows m hm, ← List.map_reverse, List.filter_map, List.filter_reverse]
        rfl
      _ = _ := by rw [hfilter, List.map_reverse]

end Keeps

end Table

end RevisionLog
