import RevisionLog.Proofs.Residue
import RevisionLog.Store.Session

/-!
# Writes that read first

A client that changes a name reads its latest record and inserts the draft that follows it
(`Change.draft?`): a creation where it saw none, the next version of a live record, a new lifetime
after a tombstone. Such a draft continues the history, if what was seen is what the history ends
with (`Change.continues`), or if nothing was seen because a sweep has removed the tombstone
(`Change.continues_swept`).
-/

namespace RevisionLog

/-- A name that keys may have. -/
structure Key where
  name : String
  ordinary : name ≠ sentinelName

/-- A key. -/
def Key.sample : Key := ⟨"key", by decide⟩

/-- What a client makes of a key. -/
inductive Change
  | put (value : Bytes)
  | remove
deriving DecidableEq, Repr

namespace Change

/-- The draft that changes a name, on a lease if one is given; `seen` is the latest record of the
name that the client knows. A tombstone needs a live record. -/
def draft? (change : Change) (name : String) (seen : Option Record) (lease : Option Int) :
    Option Draft :=
  match change, seen with
  | put value, none => some ((Draft.create name value).leased lease)
  | put value, some r =>
    some ((if r.deleted then Draft.recreate r value else Draft.update r value).leased lease)
  | remove, none => none
  | remove, some r => if r.deleted then none else some ((Draft.tombstone r).leased lease)

end Change

namespace Draft

variable (d : Draft) (lease : Option Int)

@[simp] theorem leased_name : (d.leased lease).name = d.name := by cases lease <;> rfl

@[simp] theorem leased_created : (d.leased lease).created = d.created := by cases lease <;> rfl

@[simp] theorem leased_deleted : (d.leased lease).deleted = d.deleted := by cases lease <;> rfl

@[simp] theorem leased_createRevision : (d.leased lease).createRevision = d.createRevision := by
  cases lease <;> rfl

@[simp] theorem leased_prevRevision : (d.leased lease).prevRevision = d.prevRevision := by
  cases lease <;> rfl

@[simp] theorem leased_value : (d.leased lease).value = d.value := by cases lease <;> rfl

@[simp] theorem leased_oldValue : (d.leased lease).oldValue = d.oldValue := by cases lease <;> rfl

end Draft

open History

/-- The four kinds of write: what may be written by a client that knows the latest record. -/
inductive Draft.Follows (name : String) : Option Record → Draft → Prop
  | create (value : Bytes) : Follows name none (.create name value)
  | update {r : Record} (value : Bytes) : r.deleted = false →
    Follows name (some r) (.update r value)
  | tombstone {r : Record} : r.deleted = false → Follows name (some r) (.tombstone r)
  | recreate {r : Record} (value : Bytes) : r.deleted = true →
    Follows name (some r) (.recreate r value)

namespace Change

variable {change : Change} {name : String} {seen : Option Record} {lease : Option Int} {d : Draft}

theorem draft?_follows (hd : change.draft? name seen lease = some d) :
    ∃ w : Draft, w.Follows name seen ∧ d = w.leased lease := by
  cases change with
  | put value =>
    cases seen with
    | none =>
      cases hd
      exact ⟨_, .create value, rfl⟩
    | some r =>
      cases hr : r.deleted <;> simp only [draft?, hr, Option.some.injEq] at hd <;> subst hd
      · exact ⟨_, .update value hr, rfl⟩
      · exact ⟨_, .recreate value hr, rfl⟩
  | remove =>
    cases seen with
    | none => cases hd
    | some r =>
      cases hr : r.deleted <;> simp only [draft?, hr] at hd <;> cases hd
      exact ⟨_, .tombstone hr, rfl⟩

/-- A draft has the name it changes. -/
theorem draft?_name (hseen : ∀ r, seen = some r → r.name = name)
    (hd : change.draft? name seen lease = some d) : d.name = name := by
  obtain ⟨w, hw, rfl⟩ := draft?_follows hd
  cases hw with
  | create value => simp [Draft.create]
  | update value => simp [Draft.update, hseen]
  | tombstone => simp [Draft.tombstone, Draft.update, hseen]
  | recreate value => simp [Draft.recreate, Draft.create, hseen]

/-- A draft names what was seen. -/
theorem draft?_prevRevision (hd : change.draft? name seen lease = some d) :
    d.prevRevision = (seen.map (·.id)).getD 0 := by
  obtain ⟨w, hw, rfl⟩ := draft?_follows hd
  cases hw <;> simp [Draft.create, Draft.update, Draft.tombstone, Draft.recreate]

/-- A draft continues a history that ends with what was seen. -/
theorem continues {last : Option Record}
    (hd : change.draft? name (last.map Record.resolved) lease = some d) (reach id : Int) :
    Continues reach last (d.stored id) := by
  obtain ⟨w, hw, rfl⟩ := draft?_follows hd
  cases last with
  | none =>
    cases hw with
    | create value =>
      refine .first ⟨?_, ?_, ?_, ?_⟩ ?_ <;> simp [Draft.stored, Draft.create]
  | some r =>
    cases hw with
    | update value hr =>
      refine .next hr ⟨?_, ?_, ?_, ?_⟩ <;> simp [Draft.stored, Draft.update]
    | tombstone hr =>
      refine .next hr ⟨?_, ?_, ?_, ?_⟩ <;> simp [Draft.stored, Draft.tombstone, Draft.update]
    | recreate value hr =>
      refine .again hr ⟨?_, ?_, ?_, ?_⟩ (.inl ?_) <;>
        simp [Draft.stored, Draft.recreate, Draft.create]

/-- Where nothing is seen of a history that ends with a tombstone, because a sweep has removed it,
a draft begins a lifetime that names none. -/
theorem continues_swept {reach : Int} {l : Record} (hl : l.deleted = true) (hle : l.id ≤ reach)
    (hd : change.draft? name none lease = some d) (id : Int) :
    Continues reach (some l) (d.stored id) := by
  obtain ⟨w, hw, rfl⟩ := draft?_follows hd
  cases hw with
  | create value =>
    refine .again hl ⟨?_, ?_, ?_, ?_⟩ (.inr ⟨?_, hle⟩) <;> simp [Draft.stored, Draft.create]

end Change

end RevisionLog
