import RevisionLog.Proofs.CompactionReads
import RevisionLog.Proofs.Journal
import RevisionLog.Proofs.PatternSpec
import Mathlib.Data.List.Sort

/-!
# Following a log

A client follows a log by asking for the records above a floor, and moves the floor to the last
record that it got (`Watch`). Between two polls the log is written to, and compacted, but not past
the floor. What the client gets is then exactly what was written above the floor it began with,
each record once and in order, and a poll that is not cut short by its limit leaves nothing behind
(`Watch.run_exact`).

Every record above the floor is still there (`Watch.Abreast.above`), since a sweep removes none
above its target, and a new record is above every floor that was reached. With a pattern that is too
long a poll is refused when there is a row to compare (`Watch.poll_refused`).
-/

namespace RevisionLog

/-! ## Lists that ascend -/

section Ascending

variable {α : Type} {f : α → Int} {xs ys : List α}

/-- Lists that ascend and have the same entries are the same. -/
theorem eq_of_ascending (hx : xs.Pairwise (f · < f ·)) (hy : ys.Pairwise (f · < f ·))
    (h : ∀ a, a ∈ xs ↔ a ∈ ys) : xs = ys := by
  have : Std.Irrefl fun a b => f a < f b := ⟨fun a => Int.lt_irrefl (f a)⟩
  have : Std.Antisymm fun a b => f a < f b := ⟨fun a b hab hba => by omega⟩
  exact hx.eq_of_mem_iff hy h

/-- The beginning of a list that ascends is what goes up to its last entry. -/
theorem eq_filter_of_initial (hx : xs.Pairwise (f · < f ·)) (hp : ys <+: xs) {l : α}
    (hl : ys.getLast? = some l) : ys = xs.filter fun a => f a ≤ f l := by
  obtain ⟨zs, rfl⟩ := hp
  obtain ⟨hbefore, -, hbehind⟩ := List.pairwise_append.1 hx
  have hzs : zs.filter (fun a => f a ≤ f l) = [] := by
    refine List.filter_eq_nil_iff.2 fun a ha => ?_
    have := hbehind l (List.mem_of_getLast? hl) a ha
    simpa using this
  rw [List.filter_append, hzs, List.append_nil, List.filter_eq_self.2]
  exact fun a ha => decide_eq_true (le_of_getLast? hbefore hl a ha)

theorem filter_append_filter (hx : xs.Pairwise (f · < f ·)) {lo mid hi : Int} (hlo : lo ≤ mid)
    (hhi : mid ≤ hi) :
    (xs.filter fun a => lo < f a && f a ≤ mid) ++ (xs.filter fun a => mid < f a && f a ≤ hi) =
      xs.filter fun a => lo < f a && f a ≤ hi := by
  refine eq_of_ascending (f := f) (List.pairwise_append.2 ⟨hx.filter _, hx.filter _, ?_⟩)
    (hx.filter _) fun a => ?_
  · intro a ha b hb
    simp only [List.mem_filter, Bool.and_eq_true, decide_eq_true_eq] at ha hb
    omega
  · simp only [List.mem_append, List.mem_filter, Bool.and_eq_true, decide_eq_true_eq]
    constructor
    · rintro (⟨ha, h⟩ | ⟨ha, h⟩) <;> exact ⟨ha, by omega⟩
    · rintro ⟨ha, h⟩
      by_cases hm : f a ≤ mid
      · exact .inl ⟨ha, by omega⟩
      · exact .inr ⟨ha, by omega⟩

end Ascending

theorem recordsOf_mapError {ε ε' : Type} (f : ε → ε') (r : Except ε (List Row)) :
    recordsOf (r.mapError f) = (recordsOf r).mapError f := by
  cases r <;> rfl

theorem capped_initial {α : Type} (limit : Int) (xs : List α) : capped limit xs <+: xs := by
  unfold capped
  split
  · exact List.prefix_refl xs
  · exact List.take_prefix ..

theorem capped_map {α β : Type} (limit : Int) (f : α → β) (xs : List α) :
    capped limit (xs.map f) = (capped limit xs).map f := by
  unfold capped
  split
  · rfl
  · rw [List.map_take]

/-- A limit cuts something off only if it lets something through. -/
theorem eq_nil_of_capped {α : Type} {limit : Int} {xs : List α} (h : capped limit xs = []) :
    xs = [] := by
  unfold capped at h
  split at h
  · exact h
  · rename_i hpos
    rcases List.take_eq_nil_iff.1 h with h | h
    · omega
    · exact h

/-! ## What is polled -/

/-- The records that match a pattern, the oldest first, as they are read. -/
def stream (past : List Record) (pattern : String) : List Record :=
  (past.filter fun g => (Cell.text g.name).isLike pattern).reverse.map Record.resolved

section Stream

variable {past : List Record} {pattern : String}

theorem mem_stream {r : Record} : r ∈ stream past pattern ↔
    ∃ g ∈ past, (Cell.text g.name).isLike pattern = true ∧ g.resolved = r := by
  simp [stream, and_assoc]

theorem stream_cons (g : Record) (past : List Record) (pattern : String) :
    stream (g :: past) pattern = stream past pattern ++
      if (Cell.text g.name).isLike pattern then [g.resolved] else [] := by
  unfold stream
  split <;> simp [*]

theorem stream_above (past : List Record) (pattern : String) (floor : Int) :
    (stream past pattern).filter (fun r => floor < r.id) =
      (past.filter fun g => floor < g.id && (Cell.text g.name).isLike pattern).reverse.map
        Record.resolved := by
  rw [stream, List.filter_map, List.filter_reverse, List.filter_filter]
  rfl

theorem stream_ascending (h : History.Built past) (pattern : String) :
    (stream past pattern).Pairwise (·.id < ·.id) := by
  rw [stream, List.pairwise_map, List.pairwise_reverse]
  exact h.descending.filter _

end Stream

namespace Table.Holds

variable {t : Table} {past : List Record} {pattern : String} {floor : Int}

/-- Where every record above the floor is there, the rows above it are those of the records. -/
theorem rows_above (h : t.Holds past) (hp : (Cell.text sentinelName).isLike pattern = false)
    (habove : ∀ g ∈ past, floor < g.id → g.row ∈ t.rows) :
    (t.rows.filter fun r => floor < r.id).filter (·.name.isLike pattern) =
      (past.filter fun g => floor < g.id && (Cell.text g.name).isLike pattern).reverse.map
        Record.row := by
  refine eq_of_ascending (f := (·.id)) ((t.ascending.filter _).filter _) ?_ fun r => ?_
  · rw [List.pairwise_map, List.pairwise_reverse]
    exact h.built.descending.filter _
  · simp only [List.mem_filter, List.mem_map, List.mem_reverse, Bool.and_eq_true,
      decide_eq_true_eq]
    constructor
    · rintro ⟨⟨hr, hlt⟩, hlike⟩
      rcases h.rows r hr with ⟨g, hg, rfl⟩ | ⟨w, hw, -⟩
      · exact ⟨g, ⟨hg, hlt, hlike⟩, rfl⟩
      · rw [← hw] at hlike
        rw [StoredRow.watermark, hp] at hlike
        cases hlike
    · rintro ⟨g, ⟨hg, hlt, hlike⟩, rfl⟩
      exact ⟨⟨habove g hg hlt, hlt⟩, hlike⟩

/-- Where every record above the floor is there, those that match are answered, up to the limit,
unless the pattern is too long for a row that it would be compared with. -/
theorem after (h : t.Holds past) (hp : (Cell.text sentinelName).isLike pattern = false)
    (habove : ∀ g ∈ past, floor < g.id → g.row ∈ t.rows) (limit : Int) :
    recordsOf (t.after pattern floor limit) =
      if Pattern.isTooComplex pattern = true ∧ ∃ r ∈ t.rows, floor < r.id then .error .tooComplex
      else .ok (capped limit ((stream past pattern).filter fun r => floor < r.id)) := by
  have hguard : (Pattern.isTooComplex pattern &&
      !(t.rows.filter fun r => floor < r.id).isEmpty) = true ↔
        Pattern.isTooComplex pattern = true ∧ ∃ r ∈ t.rows, floor < r.id := by
    simp
  unfold Table.after
  simp only [hguard, h.rows_above hp habove, capped_map]
  split
  · rfl
  · have hlogged : ∀ r ∈ (capped limit (past.filter fun g =>
        floor < g.id && (Cell.text g.name).isLike pattern).reverse).map Record.row, r.Logged := by
      intro r hr
      obtain ⟨g, -, rfl⟩ := List.mem_map.1 hr
      exact .record g
    obtain ⟨out, hout, hrec⟩ := answer_ok h.logged hlogged
    have hread : (fun g : Record => g.row.record?) = fun g => some g.resolved :=
      funext StoredRow.record?_row
    rw [hout, recordsOf, Except.map, hrec, List.filterMap_map, stream_above, capped_map]
    simp [hread]

end Table.Holds

/-! ## Clients -/

/-- A log, and a client that follows it. -/
structure Watch where
  journal : Journal
  /-- The id of the last record that the client got, or where it began. -/
  floor : Int
  /-- The records that the client got, the oldest first. -/
  got : List Record := []

namespace Watch

/-- What may happen to a log that is followed. -/
inductive Step
  | deed (deed : Deed)
  | poll (limit : Int)

/-- The deed does not compact the log past the floor. -/
def allows (w : Watch) : Deed → Bool
  | .compact revision =>
    match w.journal.store.compactRevision with
    | .ok watermark => min revision watermark ≤ w.floor
    | .error _ => false
  | _ => true

/-- The records that a poll gets. -/
def poll (w : Watch) (pattern : String) (limit : Int) : Except LogError (List Record) :=
  recordsOf (w.journal.store.after pattern w.floor limit)

/-- The client goes on from the last record of a batch. -/
def received (w : Watch) (batch : List Record) : Watch where
  journal := w.journal
  floor := (batch.getLast?.map (·.id)).getD w.floor
  got := w.got ++ batch

/-- What a step makes of the log and of the client; a deed that would compact past the floor is not
done, and a poll that is refused gets nothing. -/
def take (pattern : String) (w : Watch) : Step → Watch
  | .deed deed => if w.allows deed then { w with journal := w.journal.take deed } else w
  | .poll limit =>
    match w.poll pattern limit with
    | .ok batch => w.received batch
    | .error _ => w

/-- A client that begins at a floor, with a log, after steps one after another. -/
def run (pattern : String) (s : Store) (floor : Int) (steps : List Step) : Watch :=
  steps.foldl (take pattern) { journal := { store := s }, floor }

end Watch

/-- The client has what was written above the floor it began with and up to its own, and what is
above that is still in the table. -/
structure Abreast (pattern : String) (start floor : Int) (got past : List Record) (t : Table) :
    Prop where
  holds : t.Holds past
  above : ∀ g ∈ past, floor < g.id → g.row ∈ t.rows
  start_le : start ≤ floor
  /-- The client has moved its floor to records only. -/
  reached : floor = start ∨ ∃ g ∈ past, g.id = floor
  got : got = (stream past pattern).filter fun r => start < r.id && r.id ≤ floor

namespace Abreast

variable {pattern : String} {start floor : Int} {got past past' : List Record} {t t' : Table}

/-- What a deed makes of the table keeps the client abreast, if it does not compact the table past
the floor. -/
theorem effect (h : Abreast pattern start floor got past t) {deed : Deed}
    (he : Journal.Effect t past deed t' past')
    (hcompact : ∀ revision, deed = .compact revision → min revision t.watermark ≤ floor) :
    Abreast pattern start floor got past' t' := by
  have hholds := he.holds h.holds
  obtain ⟨last, hids, hlast⟩ := h.holds.counter
  cases he with
  | nothing => exact h
  | @write _ d id _ ha hname hprev =>
    obtain ⟨rfl, hrows, -⟩ := Table.append_inv hids (fun _ => rfl) ha
    refine ⟨hholds, fun g hg hlt => ?_, h.start_le, ?_, ?_⟩
    · rw [hrows, List.mem_append, List.mem_singleton, Draft.row_eq]
      rcases List.mem_cons.1 hg with rfl | hg
      · exact .inr rfl
      · exact .inl (h.above g hg hlt)
    · refine h.reached.imp_right ?_
      rintro ⟨g, hg, hid⟩
      exact ⟨g, .tail _ hg, hid⟩
    · have hnew : ¬ (start < last + 1 ∧ last + 1 ≤ floor) := by
        rintro ⟨hlt, hle⟩
        rcases h.reached with he | ⟨g, hg, he⟩
        · omega
        · have := hlast g hg
          omega
      rw [h.got, stream_cons, List.filter_append, List.self_eq_append_right]
      split
      · simpa using hnew
      · rfl
  | watermark ha =>
    obtain ⟨rfl, hrows, -⟩ := Table.append_inv hids (fun _ => rfl) ha
    refine ⟨hholds, fun g hg hlt => ?_, h.start_le, h.reached, h.got⟩
    rw [hrows]
    exact List.mem_append_left _ (h.above g hg hlt)
  | compact revision =>
    have hle := hcompact revision rfl
    refine ⟨hholds, fun g hg hlt => ?_, h.start_le, h.reached, h.got⟩
    exact h.holds.mem_compacted_of_lt hg (h.above g hg hlt) (by omega)

/-- A batch is the beginning of what is above the floor. -/
theorem received (h : Abreast pattern start floor got past t) {batch : List Record}
    (hb : batch <+: (stream past pattern).filter fun r => floor < r.id) :
    Abreast pattern start ((batch.getLast?.map (·.id)).getD floor) (got ++ batch) past t := by
  cases hl : batch.getLast? with
  | none =>
    rw [List.getLast?_eq_none_iff] at hl
    simpa [hl] using h
  | some l =>
    have hasc := stream_ascending h.holds.built pattern
    obtain ⟨hlmem, hlt⟩ := List.mem_filter.1 (hb.subset (List.mem_of_getLast? hl))
    have hlt : floor < l.id := of_decide_eq_true hlt
    obtain ⟨g, hg, -, hgl⟩ := mem_stream.1 hlmem
    have hgid : g.id = l.id := by rw [← hgl, Record.resolved_id]
    have hstart := h.start_le
    have hbatch : batch = (stream past pattern).filter fun r => floor < r.id && r.id ≤ l.id := by
      rw [eq_filter_of_initial (f := (·.id)) (hasc.filter _) hb hl, List.filter_filter]
      simp only [Bool.and_comm]
    refine ⟨h.holds, fun g' hg' hlt' => h.above g' hg' ?_, ?_, .inr ⟨g, hg, hgid⟩, ?_⟩
    · simp only [Option.map_some, Option.getD_some] at hlt'
      omega
    · simp only [Option.map_some, Option.getD_some]
      omega
    · simp only [Option.map_some, Option.getD_some]
      rw [h.got, hbatch]
      exact filter_append_filter (f := Record.id) hasc hstart (by omega)

end Abreast

namespace Watch

variable {pattern : String} {start : Int} {w : Watch}

/-- The client is abreast of the log that it follows. -/
def Follows (w : Watch) (pattern : String) (start : Int) : Prop :=
  ∃ t, w.journal.store.Serves t ∧
    Abreast pattern start w.floor w.got w.journal.past t

/-- There is a row above the floor. -/
def HasAbove (w : Watch) : Prop :=
  ∃ t, w.journal.store.table? = some t ∧ ∃ r ∈ t.rows, w.floor < r.id

namespace Follows

theorem new {s : Store} (hs : s.IsEmpty) (pattern : String) (floor : Int) :
    ({ journal := { store := s }, floor } : Watch).Follows pattern floor := by
  obtain ⟨t, ht, hrows, hids, hu⟩ := hs.serves
  exact ⟨t, ht, .empty hrows hids hu, by simp, Int.le_refl _, .inl rfl, rfl⟩

/-- A poll gets what is above the floor, up to its limit, or is refused as too long. -/
theorem poll_cases (h : w.Follows pattern start)
    (hp : (Cell.text sentinelName).isLike pattern = false) (limit : Int) :
    (w.poll pattern limit = .ok (capped limit ((stream w.journal.past pattern).filter fun r =>
        w.floor < r.id)) ∧ ¬ (Pattern.isTooComplex pattern = true ∧ w.HasAbove)) ∨
      (Pattern.isTooComplex pattern = true ∧ w.HasAbove) ∧
        w.poll pattern limit = .error (w.journal.store.dialect.logError .tooComplex) := by
  obtain ⟨t, ht, ha⟩ := h
  have habove : w.HasAbove ↔ ∃ r ∈ t.rows, w.floor < r.id := by
    simp [HasAbove, ht.table]
  rw [habove, poll, Store.after, ht.query, recordsOf_mapError,
    ha.holds.after hp ha.above]
  split
  · rename_i hc
    exact .inr ⟨hc, rfl⟩
  · rename_i hc
    exact .inl ⟨rfl, hc⟩

theorem take (h : w.Follows pattern start)
    (hp : (Cell.text sentinelName).isLike pattern = false) (step : Step) :
    (w.take pattern step).Follows pattern start := by
  cases step with
  | deed deed =>
    simp only [Watch.take]
    split
    · rename_i hallows
      obtain ⟨t, ht, ha⟩ := h
      obtain ⟨t', ht', he⟩ := Journal.take_effect ht ha.holds deed
      refine ⟨t', ht', ha.effect he ?_⟩
      rintro revision rfl
      simpa [allows, ht.compactRevision_eq ha.holds.logged] using hallows
    · exact h
  | poll limit =>
    simp only [Watch.take]
    rcases h.poll_cases hp limit with ⟨hok, -⟩ | ⟨-, he⟩
    · obtain ⟨t, ht, ha⟩ := h
      rw [hok]
      exact ⟨t, ht, ha.received (capped_initial _ _)⟩
    · rw [he]
      exact h

theorem foldl (h : w.Follows pattern start)
    (hp : (Cell.text sentinelName).isLike pattern = false) (steps : List Step) :
    (steps.foldl (Watch.take pattern) w).Follows pattern start := by
  induction steps generalizing w with
  | nil => exact h
  | cons step steps ih => exact ih (h.take hp step)

end Follows

/-- A batch that was not cut short leaves nothing above the floor. -/
theorem le_floor_of_all {past : List Record} (hasc : (stream past pattern).Pairwise (·.id < ·.id)) :
    ∀ r ∈ stream past pattern,
      r.id ≤ (w.received ((stream past pattern).filter fun r => w.floor < r.id)).floor := by
  intro r hr
  simp only [received]
  cases hl : ((stream past pattern).filter fun r => w.floor < r.id).getLast? with
  | none =>
    have hle := List.filter_eq_nil_iff.1 (List.getLast?_eq_none_iff.1 hl) r hr
    simpa using hle
  | some l =>
    by_cases hlt : w.floor < r.id
    · exact le_of_getLast? (f := Record.id) (hasc.filter _) hl r
        (List.mem_filter.2 ⟨hr, decide_eq_true hlt⟩)
    · have hl := of_decide_eq_true (List.mem_filter.1 (List.mem_of_getLast? hl)).2
      simp only [Option.map_some, Option.getD_some]
      omega

theorem run_append_singleton (pattern : String) (s : Store) (floor : Int) (steps : List Step)
    (step : Step) :
    run pattern s floor (steps ++ [step]) = (run pattern s floor steps).take pattern step := by
  rw [run, List.foldl_append]
  rfl

theorem follows_run {s : Store} (hs : s.IsEmpty) {pattern : String}
    (hp : (Cell.text sentinelName).isLike pattern = false) (floor : Int) (steps : List Step) :
    (run pattern s floor steps).Follows pattern floor :=
  (Follows.new hs pattern floor).foldl hp steps

/-- A client that follows a log has got, at any time, exactly the records that match and were
written above the floor it began with, up to its own floor, each once and in order. Every poll
answers, and leaves no record that matches above the floor if it is not limited, or if it gets
nothing; only a pattern that is too long is refused, when there is a row above the floor. -/
theorem run_exact {s : Store} (hs : s.IsEmpty) {pattern : String}
    (hp : (Cell.text sentinelName).isLike pattern = false) (floor : Int) (steps : List Step) :
    (run pattern s floor steps).got.Pairwise (·.id < ·.id) ∧
      (run pattern s floor steps).got =
        ((stream (run pattern s floor steps).journal.past pattern).filter fun r =>
          floor < r.id && r.id ≤ (run pattern s floor steps).floor) ∧
      ∀ limit,
        (∃ batch, (run pattern s floor steps).poll pattern limit = .ok batch ∧
          (run pattern s floor (steps ++ [.poll limit])).got =
            (run pattern s floor steps).got ++ batch ∧
          (limit ≤ 0 ∨ batch = [] →
            ∀ r ∈ stream (run pattern s floor (steps ++ [.poll limit])).journal.past pattern,
              r.id ≤ (run pattern s floor (steps ++ [.poll limit])).floor)) ∨
        (Pattern.isTooComplex pattern = true ∧ (run pattern s floor steps).HasAbove) ∧
          (run pattern s floor steps).poll pattern limit =
            .error ((run pattern s floor steps).journal.store.dialect.logError .tooComplex) := by
  have h := follows_run hs hp floor steps
  simp only [run_append_singleton]
  generalize run pattern s floor steps = w at h
  obtain ⟨t, -, ha⟩ := id h
  have hasc := stream_ascending ha.holds.built pattern
  refine ⟨?_, ha.got, fun limit => ?_⟩
  · rw [ha.got]
    exact hasc.filter _
  · rcases h.poll_cases hp limit with ⟨hok, -⟩ | hrefused
    · refine .inl ⟨_, hok, ?_, fun hall r hr => ?_⟩
      · rw [take, hok]
        rfl
      · rw [take, hok] at hr ⊢
        have habove : capped limit ((stream w.journal.past pattern).filter fun r =>
            w.floor < r.id) = (stream w.journal.past pattern).filter fun r => w.floor < r.id := by
          rcases hall with hlimit | hnil
          · exact if_pos hlimit
          · rw [hnil, eq_nil_of_capped hnil]
        rw [habove] at hr ⊢
        exact le_floor_of_all hasc r hr
    · exact .inr hrefused

/-- A key that is updated, compacted and removed between polls. -/
def followed : List Step :=
  [.deed (.create .sample [1] none), .deed (.succeed 1 (.update [2]) none), .poll 1,
    .deed (.setCompactRevision 2), .deed (.compact 2), .poll 1, .deed (.compact 2),
    .deed (.succeed 2 .tombstone none), .poll 0]

theorem run_followed : Store.inMemory.IsEmpty ∧
    (Cell.text sentinelName).isLike "k%" = false ∧
    (run "k%" Store.inMemory 0 followed).got.map (·.id) = [1, 2, 4] ∧
    (run "k%" Store.inMemory 0 followed).got =
      (stream (run "k%" Store.inMemory 0 followed).journal.past "k%").filter fun r =>
        0 < r.id && r.id ≤ (run "k%" Store.inMemory 0 followed).floor := by
  have hp : (Cell.text sentinelName).isLike "k%" = false := by decide +kernel
  have hids : (run "k%" Store.inMemory 0 followed).got.map (·.id) = [1, 2, 4] := by
    rw [Store.inMemory_eq]
    decide +kernel
  exact ⟨Store.isEmpty_inMemory, hp, hids, (run_exact Store.isEmpty_inMemory hp 0 followed).2.1⟩

/-- A pattern of one byte too many, for what begins with one letter. -/
def wildPattern : String := String.ofList ('a' :: List.replicate Pattern.maxBytes '%')

theorem isTooComplex_wildPattern : Pattern.isTooComplex wildPattern = true := by
  have := length_le_utf8ByteSize ('a' :: List.replicate Pattern.maxBytes '%')
  rw [List.length_cons, List.length_replicate] at this
  exact decide_eq_true this

theorem codes_wildPattern :
    Pattern.codes wildPattern = 'a'.toNat :: List.replicate Pattern.maxBytes Pattern.anyRun := by
  rw [Pattern.codes, wildPattern, String.toList_ofList, List.takeWhile_cons_of_pos (by decide),
    List.takeWhile_replicate_eq_filter, List.filter_replicate_of_pos (by decide), List.map_cons,
    List.map_replicate]
  rfl

/-- Such a pattern matches what begins with the letter. -/
theorem like_wildPattern (s : String) (cs : List Nat) (hs : Pattern.codes s = 'a'.toNat :: cs) :
    (Cell.text s).isLike wildPattern = true := by
  have hrest : Pattern.accepts (List.replicate Pattern.maxBytes Pattern.anyRun) cs = true :=
    Pattern.accepts_anyRuns 49999 cs
  have hlike : (Cell.text s).isLike wildPattern =
      Pattern.accepts (Pattern.codes wildPattern) (Pattern.codes s) := rfl
  rw [hlike, hs, codes_wildPattern, Pattern.accepts_cons, hrest, if_neg (by decide)]
  decide

/-- One key is created. -/
def created : List Step := [.deed (.create ⟨"a", by decide⟩ [1] none)]

/-- A poll that is not limited is refused though there is a record that matches: the floor stays
where it is. -/
theorem poll_refused : Store.inMemory.IsEmpty ∧
    (Cell.text sentinelName).isLike wildPattern = false ∧
    (∃ e, (run wildPattern Store.inMemory 0 created).poll wildPattern 0 = .error e) ∧
    (run wildPattern Store.inMemory 0 (created ++ [.poll 0])).floor = 0 ∧
    ∃ r ∈ stream (run wildPattern Store.inMemory 0 (created ++ [.poll 0])).journal.past wildPattern,
      0 < r.id := by
  have hp : (Cell.text sentinelName).isLike wildPattern = false := sentinel_not_like _
  have hpast : (run wildPattern Store.inMemory 0 created).journal.past.map
      (fun g => (g.name, g.id)) = [("a", 1)] := by
    rw [Store.inMemory_eq]
    decide +kernel
  have hrow : (run wildPattern Store.inMemory 0 created).journal.store.table?.map
      (fun t => t.rows.map (·.id)) = some [1] := by
    rw [Store.inMemory_eq]
    decide +kernel
  have habove : (run wildPattern Store.inMemory 0 created).HasAbove := by
    obtain ⟨t, ht, hids⟩ := Option.map_eq_some_iff.1 hrow
    obtain ⟨r, hr, hid⟩ := List.mem_map.1 (hids ▸ List.mem_singleton_self (1 : Int))
    exact ⟨t, ht, r, hr, by rw [hid]; decide⟩
  have hrefused : (run wildPattern Store.inMemory 0 created).poll wildPattern 0 =
      .error ((run wildPattern Store.inMemory 0 created).journal.store.dialect.logError
        .tooComplex) := by
    rcases (follows_run Store.isEmpty_inMemory hp 0 created).poll_cases hp 0 with
      ⟨-, hno⟩ | ⟨-, he⟩
    · exact absurd ⟨isTooComplex_wildPattern, habove⟩ hno
    · exact he
  have hnext : run wildPattern Store.inMemory 0 (created ++ [.poll 0]) =
      run wildPattern Store.inMemory 0 created := by
    rw [run_append_singleton, take, hrefused]
  rw [hnext]
  refine ⟨Store.isEmpty_inMemory, hp, ⟨_, hrefused⟩, rfl, ?_⟩
  obtain ⟨g, hg, hga⟩ := List.mem_map.1 (hpast ▸ List.mem_singleton_self ("a", (1 : Int)))
  simp only [Prod.mk.injEq] at hga
  refine ⟨g.resolved, mem_stream.2 ⟨g, hg, ?_, rfl⟩, ?_⟩
  · rw [hga.1]
    exact like_wildPattern "a" [] (by decide)
  · rw [Record.resolved_id, hga.2]
    decide

end Watch

end RevisionLog
