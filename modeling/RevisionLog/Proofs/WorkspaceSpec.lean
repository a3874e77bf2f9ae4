import RevisionLog.Proofs.Opening
import RevisionLog.Workspace.Opening

/-!
# What a workspace keeps

What is put at a path stands there, and everything else stays (`Workspace.find?_put_self`,
`Workspace.find?_put_of_ne`). Directories that were made are there when they are to be made again
(`Workspace.makeDirs_again`), and a file that a connection could write to can be connected to again,
whatever database was kept in it (`DatabaseFile.connect_again`). So a text that has opened a store
goes on naming the file of that store: `Workspace.Reaches`.
-/

namespace RevisionLog

namespace Workspace

variable {w w' w₁ : Workspace} {p q : Path} {n : Node}

/-! ## What stands where -/

theorem find?_put_self (h : w.find? p ≠ some .directory) : (w.put p n).find? p = some n := by
  have hothers : (w.nodes.filter (·.1 != p)).lookup p = none := by
    rw [List.lookup_eq_none_iff]
    intro x hx
    have hne := bne_iff_ne.1 (List.mem_filter.1 hx).2
    exact bne_iff_ne.2 hne.symm
  unfold find? at h ⊢
  split at h
  · exact absurd rfl h
  · rename_i hp
    rw [if_neg hp, put, List.lookup_append, hothers, Option.none_or, List.lookup_cons_self]

theorem find?_put_of_ne (h : q ≠ p) : (w.put p n).find? q = w.find? q := by
  have hq : (q == p) = false := beq_false_of_ne h
  have hothers : (w.nodes.filter (·.1 != p)).lookup q = w.nodes.lookup q := by
    induction w.nodes with
    | nil => rfl
    | cons x nodes ih =>
      by_cases hx : x.1 = p
      · rw [List.filter_cons_of_neg (by simp [hx]), ih, List.lookup_cons, hx, hq]
      · rw [List.filter_cons_of_pos (by simp [hx]), List.lookup_cons, List.lookup_cons, ih]
  have hlast : [(p, n)].lookup q = none := by rw [List.lookup_cons, hq, List.lookup_nil]
  unfold find? put
  rw [List.lookup_append, hothers, hlast, Option.or_none]

theorem find?_put_directory (h : w.find? p ≠ some .directory)
    (hq : w.find? q = some .directory) : (w.put p n).find? q = some .directory := by
  have hne : q ≠ p := by
    rintro rfl
    exact h hq
  rw [find?_put_of_ne hne, hq]

/-! ## Directories that are made -/

/-- Making directories makes nothing else. -/
theorem makeDirsFrom_find? (w : Workspace) (here : Path) (names : List String) (q : Path) :
    (w.makeDirsFrom here names).2.find? q = w.find? q ∨
      (w.makeDirsFrom here names).2.find? q = some .directory := by
  induction names generalizing w here with
  | nil => exact .inl rfl
  | cons name names ih =>
    rw [makeDirsFrom]
    split
    · exact .inl rfl
    · split
      · exact ih w _
      · exact .inl rfl
      · rename_i hnone
        rcases ih (w.put (here.step name) .directory) (here.step name) with he | he
        · rw [he]
          by_cases hq : q = here.step name
          · exact .inr (by rw [hq, find?_put_self (by simp [hnone])])
          · exact .inl (find?_put_of_ne hq)
        · exact .inr he

/-- Directories that were made on a way are there to be made again. -/
theorem makeDirsFrom_again {here : Path} {names : List String}
    (h : w.makeDirsFrom here names = (.ok (), w₁))
    (hkept : ∀ q, w₁.find? q = some .directory → w'.find? q = some .directory) :
    w'.makeDirsFrom here names = (.ok (), w') := by
  induction names generalizing w here with
  | nil => rfl
  | cons name names ih =>
    rw [makeDirsFrom] at h ⊢
    split at h
    · cases h
    · rename_i hlong
      rw [if_neg hlong]
      -- the directory is there after the first time, whether it was made then or before
      have hthere : ∀ w : Workspace, w.makeDirsFrom (here.step name) names = (.ok (), w₁) →
          w.find? (here.step name) = some .directory →
            w'.find? (here.step name) = some .directory := by
        intro w h hw
        have hmade := makeDirsFrom_find? w (here.step name) names (here.step name)
        rw [h, hw, or_self] at hmade
        exact hkept _ hmade
      split at h
      · rename_i hfound
        rw [hthere _ h hfound]
        exact ih h
      · cases h
      · rename_i hnone
        rw [hthere _ h (find?_put_self (by simp [hnone]))]
        exact ih h

theorem makeDirs_find? (w : Workspace) (parts : List String) (q : Path) :
    (w.makeDirs parts).2.find? q = w.find? q ∨
      (w.makeDirs parts).2.find? q = some .directory := by
  unfold makeDirs
  split
  · exact .inl rfl
  · split
    · exact .inl rfl
    · exact makeDirsFrom_find? w [] parts q

theorem makeDirs_again {parts : List String} (h : w.makeDirs parts = (.ok (), w₁))
    (hkept : ∀ q, w₁.find? q = some .directory → w'.find? q = some .directory) :
    w'.makeDirs parts = (.ok (), w') := by
  unfold makeDirs at h ⊢
  split at h
  · cases h
  · rename_i hzero
    split at h
    · cases h
    · rename_i hlong
      rw [if_neg hzero, if_neg hlong]
      exact makeDirsFrom_again h hkept

end Workspace

/-! ## Files that are connected to -/

namespace DatabaseFile

variable {f f' : DatabaseFile} {a : Address} {hasRoom : Bool} {c : Connection}

/-- What a connection has of a file, and what it makes of the file. -/
theorem connect_ok (h : f.connect a hasRoom = .ok (c, f')) :
    (a.isFixed = true ∧ c = ⟨f.settled, some .readOnly⟩ ∧ f' = f) ∨
      a.isFixed = false ∧ c = ⟨f.database, f.blocked a.mode hasRoom⟩ ∧
        ((a.sharing = .none ∧ f.hasLog = false ∧ f' = f) ∨
          a.sharing ≠ .none ∧ f.excludes a.sharing = false ∧ f' = { f with hasLog := true }) := by
  simp only [connect] at h
  split at h
  · rename_i hfixed
    cases h
    exact .inl ⟨hfixed, rfl, rfl⟩
  · rename_i hfixed
    refine .inr ⟨by simpa using hfixed, ?_⟩
    split at h
    · rename_i hnone
      split at h
      · cases h
      · rename_i hlog
        cases h
        exact ⟨rfl, .inl ⟨by simpa using hnone, by simpa using hlog, rfl⟩⟩
    · rename_i hshared
      split at h
      · cases h
      · rename_i hexcludes
        split at h
        · cases h
        · cases h
          exact ⟨rfl, .inr ⟨by simpa using hshared, by simpa using hexcludes, rfl⟩⟩

theorem connect_new (hf : f.database = {}) (h : f.connect a hasRoom = .ok (c, f')) :
    c.database = {} := by
  rcases connect_ok h with ⟨-, rfl, -⟩ | ⟨-, rfl, -⟩
  · simp only [settled]
    split
    · exact hf
    · rfl
  · exact hf

/-- What does not block changes does not block them once the file has a log. -/
theorem blocked_of_hasLog {mode : Mode} (h : f.blocked mode hasRoom = none) (db : Database) :
    ({ f with hasLog := true, database := db }).blocked mode hasRoom = none := by
  unfold blocked at h ⊢
  split at h
  · cases h
  · rename_i hmode
    split at h
    · cases h
    · split at h
      · cases h
      · rename_i hsound
        simp_all

/-- A file that a connection could write to can be connected to again, and written to, whatever
database was put into it. -/
theorem connect_again (h : f.connect a hasRoom = .ok (c, f')) (hc : c.blocked = none)
    (db : Database) :
    ({ f' with database := db }).connect a hasRoom =
      .ok (⟨db, none⟩, { f' with database := db }) := by
  rcases connect_ok h with
    ⟨-, rfl, -⟩ | ⟨hfixed, rfl, ⟨hnone, hlog, rfl⟩ | ⟨hshared, hexcludes, rfl⟩⟩
  · cases hc
  · have hblocked : ({ f' with database := db }).blocked a.mode hasRoom = none := hc
    rw [hlog] at hblocked
    simp [connect, hfixed, hnone, hlog, hblocked]
  · have hexcludes' : ({ f with hasLog := true, database := db }).excludes a.sharing = false :=
      hexcludes
    simp [connect, hfixed, hshared, hexcludes', blocked_of_hasLog hc db]

end DatabaseFile

/-! ## Stores that are opened -/

namespace Workspace

variable {w : Workspace} {text : String} {a : Address} {p : Path} {f : DatabaseFile}

/-- The text names a file with a database, which connections can write to whatever database is put
into it. -/
structure Reaches (w : Workspace) (text : String) (a : Address) (p : Path) (f : DatabaseFile) :
    Prop where
  dirs : w.makeDirs (Path.parts text).dropLast = (.ok (), w)
  address : addressOf text = .ok a
  file : a.file? = some p
  reachable : p.isReachable = true
  found : w.find? p = some (.database f)
  connects : ∀ db, ({ f with database := db }).connect a p.hasJournalRoom =
    .ok (⟨db, none⟩, { f with database := db })

theorem parse_of_addressOf (h : addressOf text = .ok a) : Address.parse text = .ok a := by
  unfold addressOf at h
  split at h
  · cases h
  · exact h

/-- A file that can be used at all is no directory, and no directory goes on the way to it. What is
in it was there before, or is new. -/
theorem databaseFile_ok {w' : Workspace} {mode : Mode} {cannotOpen : Fault}
    (h : w.databaseFile mode p cannotOpen = (.ok f, w')) :
    p.isReachable = true ∧ w'.find? p ≠ some .directory ∧
      (∀ q, w.find? q = some .directory → w'.find? q = some .directory) ∧
      (f.database = {} ∨ w.find? p = some (.database f)) := by
  unfold databaseFile at h
  split at h
  · cases h
  · rename_i hreachable
    refine ⟨by simpa using hreachable, ?_⟩
    split at h
    · cases h
    · rename_i content hfound
      cases hread : DatabaseFile.ofText content with
      | error e => rw [hread] at h; cases h
      | ok f' =>
        rw [hread] at h
        cases h
        refine ⟨by simp [hfound], fun _ hq => hq, .inl ?_⟩
        simp only [DatabaseFile.ofText, bind, Except.bind] at hread
        split at hread
        · cases hread
        · split at hread <;> cases hread <;> rfl
    · rename_i hfound
      cases h
      exact ⟨by simp [hfound], fun _ hq => hq, .inr hfound⟩
    · rename_i hfound
      split at h
      · cases h
        have hnone : w.find? p ≠ some .directory := by simp [hfound]
        exact ⟨by simp [find?_put_self hnone], fun _ hq => find?_put_directory hnone hq, .inl rfl⟩
      · cases h

namespace Reaches

/-- The database of a store that is kept in the file is there. -/
theorem keep (h : w.Reaches text a p f) {s : Store} {db : Database} (hc : s.connection = .ok db)
    (hb : s.blocked = none) :
    (w.keep text s).Reaches text a p { f with database := db } := by
  have hkeep : w.keep text s = w.put p (.database { f with database := db }) := by
    simp [Workspace.keep, parse_of_addressOf h.address, hc, hb, h.file, h.found]
  have hnot : w.find? p ≠ some .directory := by simp [h.found]
  rw [hkeep]
  exact {
    dirs := makeDirs_again h.dirs fun _ hq => find?_put_directory hnot hq
    address := h.address
    file := h.file
    reachable := h.reachable
    found := find?_put_self hnot
    connects := h.connects }

/-- A text that names a file opens a store on the database in it. -/
theorem openStore (h : w.Reaches text a p f) (migration : Nat) (common : Database) :
    let opening := Store.open .sqlite ⟨f.database, none⟩ migration
    w.openStore text migration common =
      { result := opening.1.map fun _ => opening.2.2
        events := opening.2.1
        workspace := (w.put p (.database f)).keep text opening.2.2 } := by
  have hfile : w.databaseFile a.mode p (.cannotOpen text) = (.ok f, w) := by
    simp [databaseFile, h.reachable, h.found]
  have hconnect : w.connect text common a =
      (.ok ⟨f.database, none⟩, w.put p (.database f)) := by
    simp [connect, h.file, hfile, bind, Except.bind, h.connects f.database]
  simp only [Workspace.openStore, h.dirs, h.address, hconnect]

theorem put (h : w.Reaches text a p f) : (w.put p (.database f)).Reaches text a p f := by
  have hnot : w.find? p ≠ some .directory := by simp [h.found]
  exact { h with
    dirs := makeDirs_again h.dirs fun _ hq => find?_put_directory hnot hq
    found := find?_put_self hnot }

end Reaches

/-- The text names no file with anything in its database already. -/
def IsNew (w : Workspace) (text : String) : Prop :=
  ∀ a p f, addressOf text = .ok a → a.file? = some p → w.find? p = some (.database f) →
    f.database = {}

/-- A store that could be opened is that of a connection to the address. -/
theorem openStore_ok {migration : Nat} {common : Database} {store : Store}
    (h : (w.openStore text migration common).result = .ok store) :
    ∃ w₁ w₂ a connection, w.makeDirs (Path.parts text).dropLast = (.ok (), w₁) ∧
      addressOf text = .ok a ∧ w₁.connect text common a = (.ok connection, w₂) ∧
      (∃ i, (Store.open .sqlite connection migration).1 = .ok i) ∧
      store = (Store.open .sqlite connection migration).2.2 ∧
      (w.openStore text migration common).workspace = w₂.keep text store := by
  unfold openStore at h ⊢
  rcases hdirs : w.makeDirs (Path.parts text).dropLast with ⟨e | _, w₁⟩
  · simp [hdirs] at h
  · cases ha : addressOf text with
    | error e => simp [hdirs, ha] at h
    | ok a =>
      rcases hc : w₁.connect text common a with ⟨e | connection, w₂⟩
      · simp [hdirs, ha, hc] at h
      · rcases ho : Store.open .sqlite connection migration with ⟨e | i, events, s⟩
        · simp only [hdirs, ha, hc, ho] at h
          cases h
        · simp only [hdirs, ha, hc, ho] at h
          cases h
          exact ⟨w₁, w₂, a, connection, rfl, rfl, hc, ⟨i, by rw [ho]⟩, by rw [ho],
            by simp [hc, ho]⟩

/-- A connection to a new database; if it is in a file and can be written to, the file is there. -/
theorem connect_new {w' : Workspace} {connection : Connection}
    (hnew : ∀ p f, a.file? = some p → w.find? p = some (.database f) → f.database = {})
    (h : w.connect text {} a = (.ok connection, w')) :
    connection.database = {} ∧ ∀ p, a.file? = some p → connection.blocked = none →
      p.isReachable = true ∧ (∀ q, w.find? q = some .directory → w'.find? q = some .directory) ∧
        ∃ f, w'.find? p = some (.database f) ∧
          ∀ db, ({ f with database := db }).connect a p.hasJournalRoom =
            .ok (⟨db, none⟩, { f with database := db }) := by
  unfold connect at h
  cases hfile : a.file? with
  | none =>
    simp only [hfile, ite_self] at h
    cases h
    exact ⟨rfl, fun p hp => by cases hp⟩
  | some p =>
    rcases hf : w.databaseFile a.mode p (.cannotOpen text) with ⟨e | f₀, w₀⟩
    · simp only [hfile, hf, bind, Except.bind] at h
      cases h
    · obtain ⟨hreachable, hnot, hdirs, hcontent⟩ := databaseFile_ok hf
      rcases hc : f₀.connect a p.hasJournalRoom with e | ⟨c, f⟩
      · simp only [hfile, hf, bind, Except.bind, hc] at h
        cases h
      · simp only [hfile, hf, bind, Except.bind, hc] at h
        obtain ⟨rfl, rfl⟩ : c = connection ∧
            (if c.blocked.isNone then w₀.put p (.database f) else w₀) = w' := by
          simpa using h
        have hdb : f₀.database = {} := hcontent.elim id (hnew p f₀ hfile)
        refine ⟨DatabaseFile.connect_new hdb hc, fun p' hp' hb => ?_⟩
        cases hp'
        rw [if_pos (by simp [hb])]
        exact ⟨hreachable, fun q hq => find?_put_directory hnot (hdirs q hq), f,
          find?_put_self hnot, DatabaseFile.connect_again hc hb⟩

/-- Nothing can be installed over a connection that cannot write. -/
theorem open_blocked {connection : Connection} (hdb : connection.database = {}) {migration : Nat}
    {i : Installed} (h : (Store.open .sqlite connection migration).1 = .ok i) :
    connection.blocked = none := by
  obtain ⟨db, blocked⟩ := connection
  obtain rfl : db = {} := hdb
  cases blocked with
  | none => rfl
  | some e =>
    -- the first statement is refused
    have hrefused : Store.backend.execute Definition.table.sql
        { dialect := .sqlite, connection := .ok {}, blocked := some e } =
          (.error (Dialect.sqlite.logError e),
            { dialect := .sqlite, connection := .ok {}, blocked := some e }) := by
      simp [Store.backend, Store.alter, Store.call, Store.guarded,
        Database.execute_sql _ (show Definition.table ∈ Definition.all by decide), Database.define]
    have hfind : findTable Store.backend .sqlite
        { dialect := .sqlite, connection := .ok {}, blocked := some e } =
          (false, [], { dialect := .sqlite, connection := .ok {}, blocked := some e }) := rfl
    have hplan : Schema.sqlite.plan false migration = ⟨"SETUP EXEC", Definition.table.sql⟩ ::
        (Schema.sqlite.creation.tail ++ Schema.sqlite.pending migration) := rfl
    simp only [Store.open, Store.install, install, hfind, hplan, runTasks, hrefused] at h
    cases h

/-- A store that was opened on a new database is on an empty log, and its text goes on naming its
file. -/
theorem openStore_new {migration : Nat} {store : Store} (hnew : w.IsNew text)
    (h : (w.openStore text migration).result = .ok store) :
    store = { dialect := .sqlite, connection := .ok .fresh } ∧
      ∀ a p, Address.parse text = .ok a → a.file? = some p →
        ∃ f, (w.openStore text migration).workspace.Reaches text a p f := by
  obtain ⟨w₁, w₂, a, connection, hdirs, ha, hconnect, ⟨i, hok⟩, rfl, hw⟩ := openStore_ok h
  have hnew₁ : ∀ p f, a.file? = some p → w₁.find? p = some (.database f) → f.database = {} := by
    intro p f hp hfound
    refine hnew a p f ha hp ?_
    have hmade := makeDirs_find? w (Path.parts text).dropLast p
    rw [hdirs, hfound] at hmade
    rcases hmade with hsame | hdirectory
    · exact hsame.symm
    · cases hdirectory
  obtain ⟨hdb, hfile⟩ := connect_new hnew₁ hconnect
  have hb : connection.blocked = none := open_blocked hdb hok
  obtain rfl : connection = ⟨{}, none⟩ := by
    cases connection
    cases hdb
    cases hb
    rfl
  rw [hw, Store.open_new]
  refine ⟨rfl, fun a' p ha' hp => ?_⟩
  obtain rfl : a = a' := Except.ok.inj ((parse_of_addressOf ha).symm.trans ha')
  obtain ⟨hreachable, hkept, f, hfound, hconnects⟩ := hfile p hp rfl
  have hreaches : w₂.Reaches text a p f :=
    ⟨makeDirs_again hdirs hkept, ha, hp, hreachable, hfound, hconnects⟩
  exact ⟨_, hreaches.keep rfl rfl⟩

end Workspace

end RevisionLog
