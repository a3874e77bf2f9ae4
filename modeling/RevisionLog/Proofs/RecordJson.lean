import Mathlib.Data.List.Nodup
import RevisionLog.Proofs.JsonShape

/-!
# Records through JSON and back

A record whose integers have 64 bits is read back from its compact text, from the array of its
values in the order of its fields, and from any other text that holds its fields
(`Record.fieldTexts`, `Json.Fits`): an object with them in any order among other members, with any
white space, the strings in any spelling. So are drafts and rows (`json_roundtrip`).
-/

namespace RevisionLog

open Json (FieldTexts Shape)

/-- An integer of 64 bits. -/
def Is64 (i : Int) : Prop := minInt ≤ i ∧ i ≤ maxInt

instance (i : Int) : Decidable (Is64 i) :=
  inferInstanceAs (Decidable (_ ∧ _))

/-- The draft's integers have 64 bits. -/
structure Draft.Bounded (d : Draft) : Prop where
  createRevision : Is64 d.createRevision
  prevRevision : Is64 d.prevRevision
  lease : Is64 d.lease

/-- The record's integers have 64 bits. -/
structure Record.Bounded (r : Record) : Prop where
  id : Is64 r.id
  draft : r.toDraft.Bounded

/-- The row's integers have 64 bits. -/
structure Row.Bounded (w : Row) : Prop where
  currentRevision : Is64 w.currentRevision
  compactRevision : Is64 w.compactRevision
  record : w.record.Bounded

/-- The texts that hold a draft's fields. An integer has its decimal only: `-0` and what has a point
or an exponent is read as a real. -/
def Draft.fieldTexts (d : Draft) : FieldTexts :=
  [("name", Json.Spells d.name), ("created", (· = (Json.bool d.created).compact)),
    ("deleted", (· = (Json.bool d.deleted).compact)),
    ("create_revision", (· = (Json.int d.createRevision).compact)),
    ("prev_revision", (· = (Json.int d.prevRevision).compact)),
    ("lease", (· = (Json.int d.lease).compact)), ("value", Json.IsBytes d.value),
    ("old_value", Json.IsBytes d.oldValue)]

/-- The texts that hold a record's fields. -/
def Record.fieldTexts (r : Record) : FieldTexts :=
  ("id", (· = (Json.int r.id).compact)) :: r.toDraft.fieldTexts

/-- The texts that hold a row's fields; its record may be any text that holds the record's. -/
def Row.fieldTexts (w : Row) : FieldTexts :=
  [("current_revision", (· = (Json.int w.currentRevision).compact)),
    ("compact_revision", (· = (Json.int w.compactRevision).compact)),
    ("record", Json.Fits w.record.fieldTexts)]

/-- The values of an object's members, without their names. -/
def Json.values : Json → List Json
  | object members => members.map Prod.snd
  | _ => []

/-- The value is read back from its own text, from the array of its fields and from any other text
that holds them, and what is read from its own text is written as it was. -/
structure Json.Survives {π α : Type} (shape : Shape π α) (toJson : α → Json) (fields : FieldTexts)
    (a : α) : Prop where
  object : decode shape.read (String.ofList (toJson a).compact) = .ok a
  array : decode shape.read (String.ofList (Json.array (toJson a).values).compact) = .ok a
  any : ∀ text : Spaced, Fits fields text.text →
    decode shape.read (String.ofList text.chars) = .ok a
  again : ∀ b, decode shape.read (String.ofList (toJson a).compact) = .ok b →
    (toJson b).compact = (toJson a).compact

namespace Json

/-! ## What is written -/

theorem stands_escape (c : Char) : Stands c (escape c) := by
  have hcontrol : ∀ n < 32, Text.hexUnit '0' '0' (Nat.digitChar (n / 16)) (Nat.digitChar (n % 16)) =
      some n := by decide
  unfold escape
  split
  all_goals try exact .short rfl
  split
  · rename_i h
    exact .unit (hcontrol c.toNat h)
  · rename_i hquote hbackslash _ _ _ _ _ h
    exact .plain h hquote hbackslash

theorem spells_quoted (s : String) : Spells s (quoted s) := by
  refine ⟨s.toList.map escape, ?_, ?_⟩
  · rw [List.forall₂_map_right_iff, List.forall₂_same]
    exact fun c _ => stands_escape c
  · rw [inQuotes, ← List.flatMap_def]
    rfl

/-- The text without white space around it. -/
def bare (text : List Char) : Spaced := ⟨[], text, [], blank_nil, blank_nil⟩

@[simp] theorem chars_bare (text : List Char) : (bare text).chars = text := List.append_nil text

theorem compactItems_eq (values : List Json) :
    compactItems values = listed false (values.map compact) ++ [']'] := by
  induction values with
  | nil => rfl
  | cons v vs ih =>
    simp only [compactItems, ih, List.map_cons, listed, if_false, Bool.false_eq_true,
      List.cons_append, List.append_assoc]

theorem compactMembers_eq (members : List (String × Json)) :
    compactMembers members =
      listed false (members.map fun m => quoted m.1 ++ ':' :: compact m.2) ++ ['\x7d'] := by
  induction members with
  | nil => rfl
  | cons m ms ih =>
    simp only [compactMembers, ih, List.map_cons, listed, if_false, Bool.false_eq_true,
      List.cons_append, List.append_assoc]

theorem inBrackets_array (values : List Json) :
    InBrackets '[' ']' ((values.map fun v => bare v.compact).map Spaced.chars)
      (array values).compact := by
  have hchars : (values.map fun v => bare v.compact).map Spaced.chars = values.map compact := by
    rw [List.map_map]
    exact List.map_congr_left fun v _ => chars_bare v.compact
  refine ⟨[], blank_nil, ?_⟩
  rw [hchars]
  cases values with
  | nil => rfl
  | cons v vs =>
    simp only [compact, compactItems_eq, List.map_cons, listed, if_true, List.cons_append,
      List.append_assoc, List.nil_append]

theorem inBrackets_object (members : List (String × Json)) :
    InBrackets '\x7b' '\x7d' (members.map fun m => quoted m.1 ++ ':' :: compact m.2)
      (object members).compact := by
  refine ⟨[], blank_nil, ?_⟩
  cases members with
  | nil => rfl
  | cons m ms =>
    simp only [compact, compactMembers_eq, List.map_cons, listed, if_true, List.cons_append,
      List.append_assoc, List.nil_append]

theorem isBytes_ofBytes (bs : List UInt8) : IsBytes bs (ofBytes bs).compact := by
  refine ⟨(bs.map fun b => int b.toNat).map fun v => bare v.compact, ?_, inBrackets_array _⟩
  rw [List.map_map, List.forall₂_map_right_iff, List.forall₂_same]
  exact fun b _ => rfl

/-- Members that are written with the names of the fields, in order, and with texts that hold their
values. -/
def Writes (fields : FieldTexts) (members : List (String × Json)) : Prop :=
  List.Forall₂ (fun t m => t.1 = m.1 ∧ t.2 m.2.compact) fields members

/-- A member as it is written. -/
def written (m : String × Json) : NamedMember where
  key := bare (quoted m.1)
  value := bare m.2.compact
  name := m.1
  spelled := spells_quoted m.1

theorem hasFields_written {fields : FieldTexts} {members : List (String × Json)}
    (hnodup : (fields.map Prod.fst).Nodup) (h : Writes fields members) :
    HasFields fields (members.map written) := by
  have hnames : (members.map written).map NamedMember.name = fields.map Prod.fst := by
    rw [List.map_map, eq_comm, ← List.forall₂_eq_eq_eq, List.forall₂_map_left_iff,
      List.forall₂_map_right_iff]
    exact h.imp fun _ _ ht => ht.1
  have hmem : ∀ m ∈ members.map written, m.name ∈ fields.map Prod.fst := by
    intro m hm
    rw [← hnames]
    exact List.mem_map_of_mem hm
  refine ⟨?_, fun m hm t ht hname => ?_, fun m hm hother => absurd (hmem m hm) hother⟩
  · rw [fieldNames, hnames, List.filter_eq_self.2 fun name hname => by simpa using hname]
  · obtain ⟨member, hmember, rfl⟩ := List.mem_map.1 hm
    obtain ⟨t', ht', hname', htext⟩ := exists_of_mem_right h hmember
    rw [List.inj_on_of_nodup_map hnodup ht ht' (hname.trans hname'.symm)]
    exact htext

/-- What is written of the fields fits, in any order and with other members. -/
theorem fits_object {fields : FieldTexts} {members others shuffled : List (String × Json)}
    (hnodup : (fields.map Prod.fst).Nodup) (h : Writes fields members)
    (hothers : ∀ m ∈ others, m.1 ∉ fields.map Prod.fst ∧ IsValue m.2.compact)
    (hperm : (others ++ members).Perm shuffled) : Fits fields (object shuffled).compact := by
  have hfields : HasFields fields ((others ++ members).map written) := by
    clear hperm
    induction others with
    | nil => exact hasFields_written hnodup h
    | cons m others ih =>
      obtain ⟨hm, hothers⟩ := List.forall_mem_cons.1 hothers
      rw [List.cons_append, List.map_cons]
      exact (ih hothers).cons_other hm.1 hm.2
  have hbrackets := inBrackets_object shuffled
  refine .object (hfields.perm (hperm.map written)) ?_
  rw [List.map_map]
  simpa [Function.comp_def, written, Member.chars] using hbrackets

theorem fits_array {fields : FieldTexts} {members : List (String × Json)}
    (h : Writes fields members) : Fits fields (array (members.map Prod.snd)).compact := by
  refine .array ?_ (inBrackets_array _)
  rw [List.forall₂_map_right_iff, List.forall₂_map_right_iff]
  exact h.imp fun _ _ ht => ht.2

/-- A value is read back if reading its fields gathers it and they are what is written. -/
theorem survives {π α : Type} {shape : Shape π α} {toJson : α → Json} {fields : FieldTexts} {a : α}
    {part : (String → Bool) → π} {members : List (String × Json)}
    (hgathers : shape.Gathers part fields a) (hnodup : (fields.map Prod.fst).Nodup)
    (hwrites : Writes fields members) (hjson : toJson a = .object members) :
    Survives shape toJson fields a := by
  have hany (text : Spaced) (htext : Fits fields text.text) :
      decode shape.read (String.ofList text.chars) = .ok a :=
    decode_chars (hgathers.read_fits hnodup htext)
  have hobject : decode shape.read (String.ofList (toJson a).compact) = .ok a := by
    rw [hjson, ← chars_bare (object members).compact]
    exact hany _ (fits_object hnodup hwrites (List.forall_mem_nil _) (.refl _))
  refine ⟨hobject, ?_, hany, fun b hb => ?_⟩
  · rw [hjson, values, ← chars_bare (array _).compact]
    exact hany _ (fits_array hwrites)
  · rw [hobject] at hb
    obtain rfl : a = b := Except.ok.inj hb
    rfl

end Json

/-! ## Records -/

/-- What has been read of a record when the fields have been read whose names are in `read`. -/
def Record.gathered (r : Record) (read : String → Bool) : Record.Partial where
  id := if read "id" then some r.id else none
  name := if read "name" then some r.name else none
  created := if read "created" then some r.created else none
  deleted := if read "deleted" then some r.deleted else none
  createRevision := if read "create_revision" then some r.createRevision else none
  prevRevision := if read "prev_revision" then some r.prevRevision else none
  lease := if read "lease" then some r.lease else none
  value := if read "value" then some r.value else none
  oldValue := if read "old_value" then some r.oldValue else none

/-- What has been read of a row when the fields have been read whose names are in `read`. -/
def Row.gathered (w : Row) (read : String → Bool) : Row.Partial where
  currentRevision := if read "current_revision" then some w.currentRevision else none
  compactRevision := if read "compact_revision" then some w.compactRevision else none
  record := if read "record" then some w.record else none

theorem Json.reads_int64 {i : Int} (h : Is64 i) :
    ∀ text, text = (Json.int i).compact → Json.Reads Json.readInt64 text i := by
  rintro _ rfl
  exact Json.reads_int h.1 h.2 h.1 h.2

theorem Json.reads_flag (b : Bool) :
    ∀ text, text = (Json.bool b).compact → Json.Reads (Json.readBool "a boolean") text b := by
  rintro _ rfl
  exact Json.reads_bool b

open Json (mark Field.of_takes reads_int64 reads_flag reads_string reads_bytes)

theorem Record.takes_draftFields {r : Record} (h : r.toDraft.Bounded) :
    List.Forall₂ (fun f t => f.name = t.1 ∧ f.Takes r.gathered t.2) Record.Partial.draftFields
      r.toDraft.fieldTexts := by
  refine .cons ⟨rfl, Field.of_takes (fun _ => rfl) ?_ fun _ => reads_string⟩
    (.cons ⟨rfl, Field.of_takes (fun _ => rfl) ?_ (reads_flag _)⟩
    (.cons ⟨rfl, Field.of_takes (fun _ => rfl) ?_ (reads_flag _)⟩
    (.cons ⟨rfl, Field.of_takes (fun _ => rfl) ?_ (reads_int64 h.createRevision)⟩
    (.cons ⟨rfl, Field.of_takes (fun _ => rfl) ?_ (reads_int64 h.prevRevision)⟩
    (.cons ⟨rfl, Field.of_takes (fun _ => rfl) ?_ (reads_int64 h.lease)⟩
    (.cons ⟨rfl, Field.of_takes (fun _ => rfl) ?_ fun _ => reads_bytes⟩
    (.cons ⟨rfl, Field.of_takes (fun _ => rfl) ?_ fun _ => reads_bytes⟩ .nil)))))))
  all_goals
    intro read
    simp [Record.gathered, mark]

theorem Record.gathers {r : Record} (h : r.Bounded) :
    Record.shape.Gathers r.gathered r.fieldTexts r where
  takes := by
    refine .cons ⟨rfl, Field.of_takes (fun _ => rfl) (fun read => ?_) (reads_int64 h.id)⟩
      (takes_draftFields h.draft)
    simp [Record.gathered, mark]
  blank := rfl
  build read hread := by
    simp only [Record.fieldTexts, Draft.fieldTexts, List.forall_mem_cons] at hread
    obtain ⟨h₁, h₂, h₃, h₄, h₅, h₆, h₇, h₈, h₉, -⟩ := hread
    simp [Record.shape, Record.gathered, Record.Partial.toDraft, Draft.stored, h₁, h₂, h₃, h₄, h₅,
      h₆, h₇, h₈, h₉]

/-- A draft is gathered as a record is, whatever its id. -/
theorem Draft.gathers {d : Draft} (h : d.Bounded) :
    Draft.shape.Gathers (d.stored 0).gathered d.fieldTexts d where
  takes := Record.takes_draftFields h
  blank := rfl
  build read hread := by
    simp only [Draft.fieldTexts, List.forall_mem_cons] at hread
    obtain ⟨h₁, h₂, h₃, h₄, h₅, h₆, h₇, h₈, -⟩ := hread
    simp [Draft.shape, Record.gathered, Record.Partial.toDraft, Draft.stored, h₁, h₂, h₃, h₄, h₅,
      h₆, h₇, h₈]

theorem Record.nodup_fieldTexts (r : Record) : (r.fieldTexts.map Prod.fst).Nodup := by
  simp [Record.fieldTexts, Draft.fieldTexts]

theorem Row.gathers {w : Row} (h : w.Bounded) :
    Row.shape.Gathers w.gathered w.fieldTexts w where
  takes := by
    refine .cons ⟨rfl, Field.of_takes (fun _ => rfl) ?_ (reads_int64 h.currentRevision)⟩
      (.cons ⟨rfl, Field.of_takes (fun _ => rfl) ?_ (reads_int64 h.compactRevision)⟩
      (.cons ⟨rfl, Field.of_takes (fun _ => rfl) ?_ fun _ =>
        (Record.gathers h.record).read_fits (Record.nodup_fieldTexts _)⟩ .nil))
    all_goals
      intro read
      simp [Row.gathered, mark]
  blank := rfl
  build read hread := by
    simp only [Row.fieldTexts, List.forall_mem_cons] at hread
    obtain ⟨h₁, h₂, h₃, -⟩ := hread
    simp [Row.shape, Row.gathered, h₁, h₂, h₃]

theorem Draft.writes (d : Draft) : Json.Writes d.fieldTexts d.members :=
  .cons ⟨rfl, Json.spells_quoted _⟩ (.cons ⟨rfl, rfl⟩ (.cons ⟨rfl, rfl⟩ (.cons ⟨rfl, rfl⟩
    (.cons ⟨rfl, rfl⟩ (.cons ⟨rfl, rfl⟩ (.cons ⟨rfl, Json.isBytes_ofBytes _⟩
      (.cons ⟨rfl, Json.isBytes_ofBytes _⟩ .nil)))))))

theorem Record.writes (r : Record) :
    Json.Writes r.fieldTexts (("id", .int r.id) :: r.members) :=
  .cons ⟨rfl, rfl⟩ r.toDraft.writes

theorem Row.nodup_fieldTexts (w : Row) : (w.fieldTexts.map Prod.fst).Nodup := by
  simp [Row.fieldTexts]

theorem Row.writes (w : Row) :
    Json.Writes w.fieldTexts [("current_revision", .int w.currentRevision),
      ("compact_revision", .int w.compactRevision), ("record", w.record.toJson)] := by
  have hrecord := Json.fits_object w.record.nodup_fieldTexts w.record.writes
    (List.forall_mem_nil _) (.refl _)
  exact .cons ⟨rfl, rfl⟩ (.cons ⟨rfl, rfl⟩ (.cons ⟨rfl, hrecord⟩ .nil))

/-- Records, drafts and rows survive being written as JSON and read again. -/
theorem json_roundtrip :
    (∀ r : Record, r.Bounded → Json.Survives Record.shape Record.toJson r.fieldTexts r) ∧
      (∀ d : Draft, d.Bounded → Json.Survives Draft.shape Draft.toJson d.fieldTexts d) ∧
      (∀ w : Row, w.Bounded → Json.Survives Row.shape Row.toJson w.fieldTexts w) := by
  refine ⟨fun r h => ?_, fun d h => ?_, fun w h => ?_⟩
  · exact Json.survives (Record.gathers h) r.nodup_fieldTexts r.writes rfl
  · exact Json.survives (Draft.gathers h) (by simp [Draft.fieldTexts]) d.writes rfl
  · exact Json.survives (Row.gathers h) w.nodup_fieldTexts w.writes rfl

/-- A row with integers at their ends; its record has a quote, a backslash, control characters and
one character beyond the first 65536 in its name. The row is read with its fields the other way
round, too, and a member behind them that is none. -/
theorem json_roundtrip_ends :
    let w : Row := ⟨maxInt, minInt,
      { id := maxInt, name := "\"\\\x00\x1f/é𝄞", created := true, createRevision := minInt,
        prevRevision := -1, value := [0, 255] }⟩
    w.record.Bounded ∧ w.record.toDraft.Bounded ∧ w.Bounded ∧
      Json.decode Record.shape.read ("\x7b\"id\":9223372036854775807," ++
        "\"name\":\"\\\"\\\\\\u0000\\u001f/é𝄞\",\"created\":true,\"deleted\":false," ++
        "\"create_revision\":-9223372036854775808,\"prev_revision\":-1,\"lease\":0," ++
        "\"value\":[0,255],\"old_value\":[]\x7d") = .ok w.record ∧
      Json.decode Draft.shape.read
        (String.ofList (Json.array w.record.toDraft.toJson.values).compact) =
          .ok w.record.toDraft ∧
      Json.decode Row.shape.read (String.ofList (Json.object [("record", w.record.toJson),
        ("compact_revision", .int minInt), ("current_revision", .int maxInt),
        ("current", .array [.null])]).compact) = .ok w := by
  intro w
  have hdraft : w.record.toDraft.Bounded := ⟨by decide, by decide, by decide⟩
  have hrecord : w.record.Bounded := ⟨by decide, hdraft⟩
  have hrow : w.Bounded := ⟨by decide, by decide, hrecord⟩
  have hother : Json.IsValue (Json.array [.null]).compact :=
    .array (List.forall_mem_singleton.2 (.word (.inr (.inr rfl))))
      (Json.inBrackets_array [.null])
  have hothers : ∀ m ∈ [("current", Json.array [.null])],
      m.1 ∉ w.fieldTexts.map Prod.fst ∧ Json.IsValue m.2.compact :=
    List.forall_mem_singleton.2 ⟨by simp [Row.fieldTexts], hother⟩
  have hfits := Json.fits_object w.nodup_fieldTexts w.writes hothers (List.reverse_perm _).symm
  refine ⟨hrecord, hdraft, hrow, ?_, (json_roundtrip.2.1 _ hdraft).array, ?_⟩
  · rw [← (json_roundtrip.1 _ hrecord).object]
    exact congrArg (Json.decode Record.shape.read) (by decide +kernel)
  · rw [← Json.chars_bare (Json.object _).compact]
    exact (json_roundtrip.2.2 w hrow).any (Json.bare _) hfits

/-- Fields in other spellings, the record as an array, and members that are no fields. -/
example : Json.decode Row.shape.read
    ("\x7b \"x\": [\x7b\"\\ud800\": -1.5e400\x7d, []], " ++
      "\"record\": [5, \"\\ud834\\udd1e\", true, false, 0, 0, 0, [ 1,2], []], \"x\": null, " ++
      "\"compact_revision\": 2, \"\\u0063urrent_revision\": 5\x7d") =
      .ok ⟨5, 2, { id := 5, name := "𝄞", created := true, value := [1, 2] }⟩ := by
  decide +kernel

end RevisionLog
