import RevisionLog.Proofs.Change
import RevisionLog.Proofs.Keeping
import RevisionLog.Proofs.StoreSpec

/-!
# What a store keeps of a history

`Store.Keeps K s past reach spent`: the store `s` works on a table that keeps the history `past`,
of which sweeps have gone up to `reach`, and whose ids have not gone above `spent`. Each operation
passes the invariant on:

* `Keeps.insert` — a draft that continues the history is put behind it, or nothing changes. It is
  put there if no record that is left names the same one, and is refused as a lost compare-and-swap
  otherwise (`Keeps.inserts_iff`, `Keeps.refuses_iff`), unless it is too long for the engine, which
  nothing is that leaves 74 bytes of the limit (`Keeps.not_refusesLength`).
* `Keeps.setCompactRevision`, `Keeps.insert_aside` — rows of the sentinel are no part of it.
* `Keeps.compact` — a compaction never fails, and extends the reach of sweeps.
-/

namespace RevisionLog

namespace Store

open History

/-- The store works on a table that keeps the history, with ids up to `spent`. -/
def Keeps (K : String → Prop) (s : Store) (past : List Record) (reach : Int) (spent : Nat) :
    Prop :=
  ∃ t, s.Serves t ∧ t.Keeps K past reach ∧ ∃ last, t.ids = .counter last ∧ last ≤ spent

theorem IsEmpty.keeps {s : Store} (h : s.IsEmpty) (K : String → Prop) : s.Keeps K [] 0 0 := by
  obtain ⟨t, ht, hrows, hids, hu⟩ := h.serves
  exact ⟨t, ht, .empty hrows hids hu, 0, hids, Int.le_refl _⟩

namespace Keeps

variable {K : String → Prop} {s : Store} {past : List Record} {reach : Int} {spent : Nat}
  {d : Draft} {n : String}

theorem mono {more : Nat} (hle : spent ≤ more) (h : s.Keeps K past reach spent) :
    s.Keeps K past reach more := by
  obtain ⟨t, ht, hk, last, hids, hlast⟩ := h
  exact ⟨t, ht, hk, last, hids, by omega⟩

theorem written (h : s.Keeps K past reach spent) : Written reach past := by
  obtain ⟨t, -, hk, -⟩ := h
  exact hk.written

/-- As long as ids are left, there is room. -/
theorem hasRoom (h : s.Keeps K past reach spent) (hspent : (spent : Int) < maxInt) :
    s.HasRoom := by
  obtain ⟨t, ht, -, last, hids, hlast⟩ := h
  exact (ht.hasRoom_iff hids).2 (by omega)

theorem versions_eq (h : s.Keeps K past reach spent) (hn : K n) :
    s.versions n = ((remaining reach past n).map Record.resolved).reverse := by
  obtain ⟨t, ht, hk, -⟩ := h
  rw [ht.versions_eq, hk.versions_eq hn]

theorem latest_eq (h : s.Keeps K past reach spent) (hn : K n) :
    s.latest n = (remaining reach past n).head?.map Record.resolved := by
  obtain ⟨t, ht, hk, -⟩ := h
  rw [ht.latest_eq, hk.latest_eq hn]

/-- As long as nothing is swept, the latest record is the last one of the history. -/
theorem latest_unswept (h : s.Keeps K past 0 spent) (hn : K n) :
    s.latest n = (History.latest past n).map Record.resolved := by
  rw [h.latest_eq hn]
  rcases h.written.remaining_head n with hh | ⟨-, l, hl, -, hle⟩
  · rw [hh]
  · have := h.written.pos l (latest_mem hl).1
    omega

/-- The versions of a name are what can be got of it, and getting never fails. -/
theorem mem_versions_iff (h : s.Keeps K past reach spent) {r : Record} :
    r ∈ s.versions n ↔ s.get r.id = .ok (some r) ∧ r.name = n := by
  obtain ⟨t, ht, hk, -⟩ := h
  rw [ht.versions_eq, Table.mem_versions_iff hk.logged, get, ht.query]
  cases hget : t.get r.id with
  | error e => rw [Table.get_ok hk.logged] at hget; cases hget
  | ok o => simp

/-- A version is a record of the history that is left, as it is read. -/
theorem of_mem_versions (h : s.Keeps K past reach spent) (hn : K n) {r : Record}
    (hr : r ∈ s.versions n) : ∃ b ∈ remaining reach past n, r = b.resolved := by
  rw [h.versions_eq hn, List.mem_reverse, List.mem_map] at hr
  obtain ⟨b, hb, rfl⟩ := hr
  exact ⟨b, hb, rfl⟩

/-- Each version but the first names the one before it. -/
theorem versions_chain (h : s.Keeps K past reach spent) (hn : K n) :
    (s.versions n).IsChain fun a b => a.id < b.id ∧ b.prevRevision = a.id := by
  rw [h.versions_eq hn, List.isChain_reverse, List.isChain_map]
  exact (h.written.remaining_chain n).imp fun _ _ hab => hab.symm

/-- The first version names none, or one that sweeps have removed. -/
theorem versions_first (h : s.Keeps K past reach spent) (hn : K n) {r : Record}
    (hr : (s.versions n).head? = some r) :
    r.prevRevision = 0 ∨ ∃ g ∈ past, g.id = r.prevRevision ∧ g.id < r.id ∧
      remains reach past g = false := by
  rw [h.versions_eq hn, List.head?_reverse, List.getLast?_map] at hr
  obtain ⟨a, ha, rfl⟩ := Option.map_eq_some_iff.1 hr
  exact h.written.remaining_first (a := a) ha

/-- A record that sweeps have removed cannot be got. -/
theorem get_gone (h : s.Keeps K past reach spent) {b : Record} (hb : b ∈ past)
    (hgone : remains reach past b = false) : s.get b.id = .ok none := by
  obtain ⟨t, ht, hk, -⟩ := h
  rw [get, ht.query, Table.get_none (hk.id_ne hb hgone)]
  rfl

/-! ## Insertions -/

/-- A draft that continues the history is put behind it, or refused without a trace. -/
theorem insert (h : s.Keeps K past reach spent) (hd : K d.name)
    (hc : ∀ id, Continues reach (History.latest past d.name) (d.stored id)) :
    (∃ id s', s.insert d = (.ok id, s') ∧ s'.Keeps K (d.stored id :: past) reach (spent + 1)) ∨
      ∃ e, s.insert d = (.error e, s) := by
  obtain ⟨t, ht, hk, last, hids, hlast⟩ := h
  rcases ht.insert_outcome d with ⟨id, s', t', ha, hs, ht'⟩ | ⟨e, he⟩
  · obtain ⟨hid, -, hids', -⟩ := Table.append_inv hids (fun _ => rfl) ha
    exact .inl ⟨id, s', hs, t', ht', hk.push hd ha (hc id), id, hids', by omega⟩
  · exact .inr ⟨e, he⟩

/-- What is too long has not lost. -/
theorem not_refuses (h : s.Keeps K past reach spent) (hlong : s.RefusesLength d) :
    ¬ s.Refuses d := by
  obtain ⟨t, ht, -⟩ := h
  obtain ⟨said, hlong⟩ := hlong
  rintro ⟨e, he, hkey⟩
  rw [hlong] at he
  cases he
  rw [ht.isKeyExists_length] at hkey
  cases hkey

/-- While an id is left, a draft has lost if a record that is left names the same one, and is put in
if there is no such record. In both cases it may instead be too long. -/
theorem insert_cases (h : s.Keeps K past reach spent) (hroom : s.HasRoom) (hd : K d.name) :
    let taken := ∃ b ∈ remaining reach past d.name, b.prevRevision = d.prevRevision
    (s.Refuses d ∧ taken) ∨
      (s.RefusesLength d ∧ lengthLimit < d.bytes + 74) ∨
      (∃ id s', s.insert d = (.ok id, s')) ∧ ¬ taken ∧ d.bytes + 10 ≤ lengthLimit := by
  intro taken
  obtain ⟨t, ht, hk, last, hids, -⟩ := h
  have hclash := hk.clashes_iff hd (last + 1)
  rcases ht.insert_cases hids hk.unique d with
    ⟨-, -, -, hfull⟩ | ⟨hr, -, htaken⟩ | hlong | ⟨hok, -, hfree, hfits⟩
  · exact absurd hroom hfull
  · exact .inl ⟨hr, hclash.1 htaken⟩
  · exact .inr (.inl hlong)
  · exact .inr (.inr ⟨hok, fun htaken => hfree (hclash.2 htaken), hfits⟩)

/-- Where nothing is too long, a draft is refused or inserted. -/
theorem refuses_iff (h : s.Keeps K past reach spent) (hroom : s.HasRoom) (hd : K d.name)
    (hlong : ¬ s.RefusesLength d) :
    s.Refuses d ↔ ∃ b ∈ remaining reach past d.name, b.prevRevision = d.prevRevision := by
  rcases h.insert_cases hroom hd with ⟨hr, htaken⟩ | ⟨hr, -⟩ | ⟨hok, hfree, -⟩
  · exact iff_of_true hr htaken
  · exact absurd hr hlong
  · exact iff_of_false (fun hr => hr.not_ok hok) hfree

theorem inserts_iff (h : s.Keeps K past reach spent) (hroom : s.HasRoom) (hd : K d.name)
    (hlong : ¬ s.RefusesLength d) :
    (∃ id s', s.insert d = (.ok id, s')) ↔
      ∀ b ∈ remaining reach past d.name, b.prevRevision ≠ d.prevRevision := by
  rcases h.insert_cases hroom hd with ⟨hr, b, hb, hp⟩ | ⟨hr, -⟩ | ⟨hok, hfree, -⟩
  · exact iff_of_false hr.not_ok fun hfree => hfree b hb hp
  · exact absurd hr hlong
  · exact iff_of_true hok fun b hb hp => hfree ⟨b, hb, hp⟩

/-- What leaves 74 bytes of the limit is not too long. -/
theorem not_refusesLength (h : s.Keeps K past reach spent) (hroom : s.HasRoom) (hd : K d.name)
    (hshort : d.bytes + 74 ≤ lengthLimit) : ¬ s.RefusesLength d := by
  intro hlong
  rcases h.insert_cases hroom hd with ⟨hr, -⟩ | ⟨-, hlt⟩ | ⟨hok, -⟩
  · exact h.not_refuses hlong hr
  · omega
  · exact hlong.not_ok hok

/-- What does not leave 10 bytes of the limit is too long, if its place is free. -/
theorem refusesLength (h : s.Keeps K past reach spent) (hroom : s.HasRoom) (hd : K d.name)
    (hfree : ∀ b ∈ remaining reach past d.name, b.prevRevision ≠ d.prevRevision)
    (hlong : lengthLimit < d.bytes + 10) : s.RefusesLength d := by
  rcases h.insert_cases hroom hd with ⟨-, b, hb, hp⟩ | ⟨hr, -⟩ | ⟨-, -, hfits⟩
  · exact absurd hp (hfree b hb)
  · exact hr
  · omega

/-- A draft is not inserted if a record that is left names the same one. -/
theorem insert_taken (h : s.Keeps K past reach spent) (hd : K d.name)
    (htaken : ∃ b ∈ remaining reach past d.name, b.prevRevision = d.prevRevision) :
    ∃ e, s.insert d = (.error e, s) := by
  obtain ⟨t, ht, hk, last, hids, -⟩ := h
  rcases ht.insert_cases hids hk.unique d with
    ⟨e, he, -⟩ | ⟨⟨e, he, -⟩, -⟩ | ⟨⟨said, he⟩, -⟩ | ⟨-, -, hfree, -⟩
  · exact ⟨e, he⟩
  · exact ⟨e, he⟩
  · exact ⟨_, he⟩
  · exact absurd ((hk.clashes_iff hd (last + 1)).2 htaken) hfree

/-- A row of the sentinel leaves the history alone. -/
theorem append_aside (h : s.Keeps K past reach spent) (hK : ¬ K sentinelName)
    {row : Int → StoredRow} (hid : ∀ i, (row i).id = i)
    (hcells : ∀ i, (row i).cells = (row 0).cells)
    (hname : ∀ i, (row i).name = .text sentinelName) (hlog : ∀ i, (row i).Logged) :
    (s.append row).2.Keeps K past reach (spent + 1) := by
  obtain ⟨t, ht, hk, last, hids, hlast⟩ := id h
  rcases ht.append_outcome row hcells with ⟨id, s', t', ha, hs, ht', -⟩ | ⟨e, he⟩
  · obtain ⟨hnew, -, hids', -⟩ := Table.append_inv hids hid ha
    rw [hs]
    exact ⟨t', ht', hk.aside hK hid hname hlog ha, id, hids', by omega⟩
  · rw [he]
    exact h.mono (Nat.le_succ spent)

theorem insert_aside (h : s.Keeps K past reach spent) (hK : ¬ K sentinelName)
    (hd : d.name = sentinelName) : (s.insert d).2.Keeps K past reach (spent + 1) := by
  rw [insert_snd]
  exact h.append_aside hK (fun _ => rfl) (fun _ => rfl) (fun _ => congrArg Cell.text hd)
    fun id => .record (d.stored id)

theorem setCompactRevision (h : s.Keeps K past reach spent) (hK : ¬ K sentinelName)
    (revision : Int) : (s.setCompactRevision revision).2.Keeps K past reach (spent + 1) := by
  rw [setCompactRevision_snd]
  exact h.append_aside hK (fun _ => rfl) (fun _ => rfl) (fun _ => rfl)
    fun id => .watermark revision id

/-! ## Compactions -/

/-- A compaction goes up to the watermark at most, and never fails. Without a watermark to go up to
it leaves the table as it is. -/
theorem compact_table (h : s.Keeps K past reach spent) (revision : Int) :
    ∃ t t' w sweep s', s.Serves t ∧ t.Keeps K past reach ∧
      (∃ last, t.ids = .counter last ∧ last ≤ spent) ∧ s.compactRevision = .ok w ∧
      s.compact revision = (.ok sweep, s') ∧ sweep.target = min revision w ∧ s'.Serves t' ∧
      s'.dialect = s.dialect ∧
      t' = if 0 < sweep.target then (t.sweepTo sweep.target).2 else t := by
  obtain ⟨t, ht, hk, hspent⟩ := h
  obtain ⟨sweep, htarget, hsweep⟩ := Table.sweep_ok hk.logged revision
  obtain ⟨s', hs, ht', hdialect⟩ := ht.compact_ok hsweep
  exact ⟨t, _, t.watermark, sweep, s', ht, hk, hspent, ht.compactRevision_eq hk.logged, hs, htarget,
    ht', hdialect, rfl⟩

/-- A compaction extends the reach of sweeps to its target, but not past the newest record. -/
theorem compact (h : s.Keeps K past reach spent) (hK : ¬ K sentinelName) (revision : Int) :
    ∃ sweep s', s.compact revision = (.ok sweep, s') ∧
      s'.Keeps K past (max reach (min sweep.target (newest past))) spent := by
  obtain ⟨t, t', w, sweep, s', -, hk, ⟨last, hids, hlast⟩, -, hs, -, ht', -, rfl⟩ :=
    h.compact_table revision
  refine ⟨sweep, s', hs, _, ht', ?_, last, ?_, hlast⟩
  · split
    · exact hk.sweep hK _
    · have hnonneg := hk.nonneg
      have hreach : max reach (min sweep.target (newest past)) = reach := by omega
      rw [hreach]
      exact hk
  · split
    · exact hids
    · exact hids

end Keeps

end Store

end RevisionLog
