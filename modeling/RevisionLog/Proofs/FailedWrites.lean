import RevisionLog.Proofs.Operations

/-!
# Writes that fail

The place of a row is its name and its predecessor. An action that puts a row in fails, as a lost
compare-and-swap, exactly if a row of the table has the place already; unless it comes to a limit of
the engine, which may have no id left or find the row too long (`Store.Serves.place_refused`). What
fails is as if it had not been asked: the same run without the operations that fail gets the other
answers of the first one and leaves the same store (`Store.failures_traceless`).
-/

namespace RevisionLog

/-- A row of the table has this name and this predecessor. -/
def Table.Occupied (t : Table) (name : String) (prev : Int) : Prop :=
  ∃ r ∈ t.rows, r.name = .text name ∧ r.prevRevision = .int prev

theorem Table.exists_clashes_iff {t : Table} (hlog : ∀ r ∈ t.rows, r.Logged) (row : StoredRow)
    {name : String} {prev : Int} (hname : row.name = .text name)
    (hprev : row.prevRevision = .int prev) :
    (∃ r ∈ t.rows, r.clashes row = true) ↔ t.Occupied name prev := by
  refine exists_congr fun r => and_congr_right fun hr => ?_
  obtain ⟨rec, -, -, hrec⟩ := (hlog r hr).record?_eq
  obtain ⟨i, hi⟩ := (hlog r hr).prevRevision_int
  simp [StoredRow.clashes, hname, hprev, hrec, hi]

/-- The bytes of the name and the values that an action puts in. -/
def Action.bytes : Action → Nat
  | insert d => d.bytes
  | setCompactRevision _ => sentinelName.utf8ByteSize
  | compact _ | delete _ | install _ => 0

namespace Store

/-- A row in the log has this name and this predecessor. -/
def Occupied (s : Store) (name : String) (prev : Int) : Prop :=
  ∃ t, s.table? = some t ∧ t.Occupied name prev

/-- The action fails, and as what is too long for the engine does. -/
def FailsAsTooLong (s : Store) (a : Action) : Prop :=
  ∃ said, s.answer (.act a) = .error (s.dialect.logError (.failure 18 said))

/-- The operations of a run that do not fail in it. -/
def succeeding (s : Store) : List Operation → List Operation
  | [] => []
  | o :: operations =>
    if (s.answer o).isOk then o :: (s.perform o).succeeding operations
    else (s.perform o).succeeding operations

variable {s : Store} {t : Table}

namespace Serves

theorem occupied_iff (h : s.Serves t) {name : String} {prev : Int} :
    s.Occupied name prev ↔ t.Occupied name prev := by
  constructor
  · rintro ⟨t', ht', ho⟩
    rw [h.table, Option.some.injEq] at ht'
    rwa [ht']
  · exact fun ho => ⟨t, h.table, ho⟩

/-- What can come of an action that puts a row in. -/
theorem answer_cases (h : s.Serves t) (ht : t.Regular) {a : Action} {name : String} {prev : Int}
    (hplace : a.place? = some (name, prev)) :
    (∃ e, s.answer (.act a) = .error e ∧ e.isKeyExists = false ∧ ¬ s.HasRoom) ∨
      (∃ e, s.answer (.act a) = .error e ∧ e.isKeyExists = true ∧ s.HasRoom ∧
        s.Occupied name prev) ∨
      (s.FailsAsTooLong a ∧ lengthLimit < a.bytes + 74) ∨
      ∃ x, s.answer (.act a) = .ok x ∧ s.HasRoom ∧ ¬ s.Occupied name prev ∧
        a.bytes + 10 ≤ lengthLimit := by
  rw [h.occupied_iff]
  cases a with
  | insert d =>
    cases hplace
    obtain ⟨last, hids⟩ := ht.counter
    rw [← Table.exists_clashes_iff ht.logged (d.row (last + 1)) rfl rfl]
    rcases h.insert_cases hids ht.unique d with
      ⟨e, he, hother, hfull⟩ | ⟨⟨e, he, hkey⟩, hroom, htaken⟩ | ⟨⟨said, he⟩, hlong⟩ |
        ⟨⟨id, s', hs⟩, hroom, hfree, hshort⟩
    · exact .inl ⟨e, by rw [answer, he]; rfl, hother, hfull⟩
    · exact .inr (.inl ⟨e, by rw [answer, he]; rfl, hkey, hroom, htaken⟩)
    · exact .inr (.inr (.inl ⟨⟨said, by rw [answer, he]; rfl⟩, hlong⟩))
    · exact .inr (.inr (.inr ⟨_, by rw [answer, hs]; rfl, hroom, hfree, hshort⟩))
  | setCompactRevision _ =>
    cases hplace
    rw [← Table.exists_clashes_iff ht.logged (.watermark prev 0) rfl rfl,
      ← Table.mem_marks_iff_clashes ht.logged]
    have hshort : sentinelName.utf8ByteSize + 10 ≤ lengthLimit := by decide
    rcases h.setCompactRevision_cases ht prev with
      ⟨s', id, t', hs, -, -, hnew, hroom⟩ | ⟨e, he, ⟨hkey, hmem, hroom⟩ | ⟨hother, hfull⟩⟩
    · exact .inr (.inr (.inr ⟨_, by rw [answer, hs]; rfl, hroom, hnew, hshort⟩))
    · exact .inr (.inl ⟨e, by rw [answer, he]; rfl, hkey, hroom, hmem⟩)
    · exact .inl ⟨e, by rw [answer, he]; rfl, hother, hfull⟩
  | _ => cases hplace

/-- What is too long has not lost. -/
theorem not_isKeyExists (h : s.Serves t) {a : Action} (hlong : s.FailsAsTooLong a) {e : LogError}
    (he : s.answer (.act a) = .error e) : e.isKeyExists = false := by
  obtain ⟨said, hlong⟩ := hlong
  rw [hlong] at he
  cases he
  exact h.isKeyExists_length said

theorem place_refused (h : s.Serves t) (ht : t.Regular) {a : Action} {name : String} {prev : Int}
    (hplace : a.place? = some (name, prev)) :
    ((∃ e, s.answer (.act a) = .error e) ↔
        s.Occupied name prev ∨ ¬ s.HasRoom ∨ s.FailsAsTooLong a) ∧
      (∀ e, s.answer (.act a) = .error e →
        (e.isKeyExists = true ↔ s.HasRoom ∧ ¬ s.FailsAsTooLong a)) ∧
      (s.HasRoom → a.bytes + 74 ≤ lengthLimit → ¬ s.FailsAsTooLong a) ∧
      (s.HasRoom → lengthLimit < a.bytes + 10 → ¬ s.Occupied name prev → s.FailsAsTooLong a) := by
  rcases h.answer_cases ht hplace with
    ⟨e, he, hother, hfull⟩ | ⟨e, he, hkey, hroom, htaken⟩ | ⟨hlong, hbytes⟩ |
      ⟨x, hx, hroom, hfree, hbytes⟩
  · refine ⟨iff_of_true ⟨e, he⟩ (.inr (.inl hfull)), fun e' he' => ?_,
      fun hroom => absurd hroom hfull, fun hroom => absurd hroom hfull⟩
    rw [he] at he'
    cases he'
    simp [hother, hfull]
  · have hshort : ¬ s.FailsAsTooLong a := fun hlong => by
      simp [h.not_isKeyExists hlong he] at hkey
    refine ⟨iff_of_true ⟨e, he⟩ (.inl htaken), fun e' he' => ?_, fun _ _ => hshort,
      fun _ _ hfree => absurd htaken hfree⟩
    rw [he] at he'
    cases he'
    exact iff_of_true hkey ⟨hroom, hshort⟩
  · have hfails : ∃ e, s.answer (.act a) = .error e := hlong.imp' _ fun _ => id
    refine ⟨iff_of_true hfails (.inr (.inr hlong)), fun e he => ?_, fun _ hle => by omega,
      fun _ _ _ => hlong⟩
    simp [h.not_isKeyExists hlong he, hlong]
  · have hok : ∀ e, s.answer (.act a) ≠ .error e := fun e he => by
      rw [hx] at he
      cases he
    have hshort : ¬ s.FailsAsTooLong a := fun ⟨_, he⟩ => hok _ he
    refine ⟨iff_of_false (fun ⟨e, he⟩ => hok e he) ?_, fun e he => absurd he (hok e),
      fun _ _ => hshort, fun _ hlt => by omega⟩
    simp [hroom, hfree, hshort]

/-- Without the operations that fail a run is the same. -/
theorem answers_succeeding (h : s.Serves t) (ht : t.Regular) (operations : List Operation) :
    s.answers (s.succeeding operations) = (s.answers operations).filter (·.isOk) ∧
      s.performAll (s.succeeding operations) = s.performAll operations := by
  induction operations generalizing s t with
  | nil => exact ⟨rfl, rfl⟩
  | cons o operations ih =>
    obtain ⟨t', h', ht'⟩ := h.perform ht o
    obtain ⟨hanswers, hstore⟩ := ih h' ht'
    rw [succeeding, answers, performAll_cons]
    by_cases hok : (s.answer o).isOk = true
    · rw [if_pos hok, List.filter_cons_of_pos hok, ← hanswers, ← hstore]
      exact ⟨rfl, rfl⟩
    · obtain ⟨e, he⟩ : ∃ e, s.answer o = .error e := by
        cases ho : s.answer o with
        | ok a => exact absurd (by rw [ho]; rfl) hok
        | error e => exact ⟨e, rfl⟩
      -- the shorter run goes on from the same store
      rw [if_neg hok, List.filter_cons_of_neg hok, ← hanswers, ← hstore, h.perform_of_error ht he]
      exact ⟨rfl, rfl⟩

end Serves

/-- After any operations on an empty log: without those that have failed, the others get the same
answers and leave the same store. An action that puts a row in fails if its place is taken, and only
then, and it fails as a lost compare-and-swap. The engine sets two limits to this. It has 2^63 - 1
ids; and it takes rows of up to 1,000,000,000 bytes. A row has at least 10 bytes beside its name and
values and at most 74. What fails at one of these limits is another failure. -/
theorem failures_traceless (hs : s.IsEmpty) (operations : List Operation) :
    (s.answers (s.succeeding operations) = (s.answers operations).filter (·.isOk) ∧
      s.performAll (s.succeeding operations) = s.performAll operations) ∧
    ((operations.length : Int) < maxInt → (s.performAll operations).HasRoom) ∧
    ∀ a name prev, a.place? = some (name, prev) →
      ((∃ e, (s.performAll operations).answer (.act a) = .error e) ↔
        (s.performAll operations).Occupied name prev ∨ ¬ (s.performAll operations).HasRoom ∨
          (s.performAll operations).FailsAsTooLong a) ∧
      (∀ e, (s.performAll operations).answer (.act a) = .error e →
        (e.isKeyExists = true ↔ (s.performAll operations).HasRoom ∧
          ¬ (s.performAll operations).FailsAsTooLong a)) ∧
      ((s.performAll operations).HasRoom → a.bytes + 74 ≤ lengthLimit →
        ¬ (s.performAll operations).FailsAsTooLong a) ∧
      ((s.performAll operations).HasRoom → lengthLimit < a.bytes + 10 →
        ¬ (s.performAll operations).Occupied name prev →
        (s.performAll operations).FailsAsTooLong a) := by
  obtain ⟨t₀, _, h₀, ht₀, -⟩ := hs.performAll []
  obtain ⟨t, last, h, ht, hids, hle⟩ := hs.performAll operations
  refine ⟨h₀.answers_succeeding ht₀ operations, fun hlt => ?_,
    fun a name prev hplace => h.place_refused ht hplace⟩
  exact (h.hasRoom_iff hids).2 (by omega)

/-- A key and a watermark that are each written twice, another key, and a poll. -/
def repeated : List Operation :=
  [.act (.insert (.create "key" [1])), .act (.insert (.create "key" [2])),
    .act (.setCompactRevision 5), .act (.setCompactRevision 5),
    .act (.insert (.create "key/a" [3])), .countCurrent "key" "", .currentRevision]

/-- The second writes fail, and the third key gets the id that it gets without them. Another
creation of the first key would fail as well. -/
theorem failures_traceless_repeated : inMemory.IsEmpty ∧
    (inMemory.answers repeated).map (·.isOk) = [true, false, true, false, true, true, true] ∧
    inMemory.answers (inMemory.succeeding repeated) =
      [.ok (.revision 1), .ok .done, .ok (.revision 3), .ok (.counted 3 1), .ok (.revision 3)] ∧
    (inMemory.performAll repeated).Occupied "key" 0 ∧
    ∃ e, (inMemory.performAll repeated).answer (.act (.insert (.create "key" [4]))) = .error e ∧
      e.isKeyExists = true := by
  obtain ⟨⟨hanswers, -⟩, hroom, hrefused⟩ := failures_traceless isEmpty_inMemory repeated
  have hroom := hroom (by decide)
  obtain ⟨hfails, hclass, hshort, -⟩ := hrefused (.insert (.create "key" [4])) "key" 0 rfl
  have hshort := hshort hroom (by decide)
  have hnot : ((inMemory.performAll repeated).answer
      (.act (.insert (.create "key" [4])))).isOk = false := by
    rw [inMemory_eq]
    decide +kernel
  cases he : (inMemory.performAll repeated).answer (.act (.insert (.create "key" [4]))) with
  | ok a =>
    rw [he] at hnot
    cases hnot
  | error e =>
    have hoccupied : (inMemory.performAll repeated).Occupied "key" 0 := by
      rcases hfails.1 ⟨e, he⟩ with hoccupied | hno | hlong
      · exact hoccupied
      · exact absurd hroom hno
      · exact absurd hlong hshort
    refine ⟨isEmpty_inMemory, ?_, ?_, hoccupied, e, rfl, (hclass e he).2 ⟨hroom, hshort⟩⟩
    · rw [inMemory_eq]
      decide +kernel
    · rw [hanswers, inMemory_eq]
      decide +kernel

end Store

end RevisionLog
