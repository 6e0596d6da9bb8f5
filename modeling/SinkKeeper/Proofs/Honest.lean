import SinkKeeper.Proofs.Builders
import SinkKeeper.Proofs.Ends

/-!
# Honest servers

A server is honest about a table if it keeps a catalog, answers the queries for the table from it, and every
statement for the table that it executes has its effect there. When a call fails, effects of statements may be
kept or undone, that of a statement which failed too.
-/

namespace SinkKeeper

variable {σ : Type} {d : Dialect} {t : Table}

/-! ## Catalogs -/

/-- What a server holds: its databases, and the columns of a table by the names of database and table. -/
structure Catalog where
  hasDatabase : String → Bool
  columns : String → String → Option (List String)

/-- The letter case in which a catalog holds names. -/
def Dialect.fold : Dialect → String → String
  | .hive => Text.lower
  | .mysql | .clickhouse => id

inductive Ddl
  | makeDatabase (name : String)
  | makeTable (home name : String) (columns : List String)
  | addColumns (home name : String) (columns : List String)

/-- Making what is there changes nothing; columns are appended. -/
def Ddl.apply : Ddl → Catalog → Catalog
  | .makeDatabase name, c => { c with hasDatabase := fun n => n == name || c.hasDatabase n }
  | .makeTable home name columns, c =>
    { c with columns := fun x y =>
        if x = home ∧ y = name then some ((c.columns x y).getD columns) else c.columns x y }
  | .addColumns home name columns, c =>
    { c with columns := fun x y =>
        if x = home ∧ y = name then (c.columns x y).map (· ++ columns) else c.columns x y }

def applied (ddls : List Ddl) (c : Catalog) : Catalog := ddls.foldl (fun c ddl => ddl.apply c) c

def Catalog.hasHome (c : Catalog) (d : Dialect) (t : Table) : Bool := c.hasDatabase (d.fold t.database.text)

def Catalog.columnsOf (c : Catalog) (d : Dialect) (t : Table) : Option (List String) :=
  c.columns (d.fold t.database.text) (d.fold t.name.text)

def Catalog.hasColumn (c : Catalog) (d : Dialect) (t : Table) (name : String) : Bool :=
  ((c.columnsOf d t).getD []).any fun n => d.fold n == d.fold name

/-- A catalog in which nothing is that was not in another one. -/
def Catalog.Within (c c' : Catalog) : Prop :=
  (∀ name, c.hasDatabase name = true → c'.hasDatabase name = true) ∧
    ∀ x y names, c.columns x y = some names → ∃ names', c'.columns x y = some names' ∧ names ⊆ names'

/-- The names of the columns that a table is made with. -/
def Table.created (t : Table) (d : Dialect) : List String :=
  (t.listedColumns d ++ t.partitionColumns d).map (fun c => d.fold c.name.text)
    ++ (if d = .clickhouse ∧ t.ttl.isSome then [Clickhouse.retentionColumn] else [])

/-- The statements for a table and what they do. -/
inductive Dialect.Builds (d : Dialect) (t : Table) : String → Ddl → Prop
  | database {sql} (h : d.createDatabase t.database = .ok sql) :
      Builds d t sql (.makeDatabase (d.fold t.database.text))
  | table {sql} (h : d.createTable t = .ok sql) :
      Builds d t sql (.makeTable (d.fold t.database.text) (d.fold t.name.text) (t.created d))
  | columns {batch sql} (hb : batch.Sublist t.columns) (h : d.addColumns t batch = .ok [sql]) :
      Builds d t sql (.addColumns (d.fold t.database.text) (d.fold t.name.text)
        (batch.map fun c => d.fold c.name.text))

/-! ## Answers -/

/-- Rows tell whether a name is present. Hive shows names that fit a pattern, perhaps with blanks around them;
elsewhere any row tells that the name is there. -/
def Dialect.Answers (rows : List Row) (name : String) (present : String → Prop) : Dialect → Prop
  | .hive =>
    (∀ row ∈ rows, ∃ cell, row.cell 0 = .ok cell ∧ present (Text.lower (Text.strip cell.text))) ∧
      (present (Text.lower name) →
        ∃ row ∈ rows, ∃ cell, row.cell 0 = .ok cell ∧ Text.lower (Text.strip cell.text) = Text.lower name)
  | .mysql | .clickhouse => rows ≠ [] ↔ present name

/-- A row begins with a name and has at least so many other cells. -/
def Row.Names (row : Row) (others : Nat) (name : String) : Prop :=
  ∃ cells, row.cells = .string name :: cells ∧ others ≤ cells.length

/-- A row of Hive that ends the columns. -/
def Hive.Ends (row : Row) : Prop :=
  ∃ mark, row.Names 0 mark ∧ (Text.strip mark = "" ∨ Text.startsWith (Text.strip mark) "#" = true)

/-- Rows describe columns, one each. In Hive blanks may stand around a name, and other rows may follow one that
ends the columns. -/
def Dialect.Describes (rows : List Row) (names : List String) : Dialect → Prop
  | .mysql => List.Forall₂ (fun row name => row.Names 4 name) rows names
  | .clickhouse => List.Forall₂ (fun row name => row.Names 6 name) rows names
  | .hive => ∃ body tail, rows = body ++ tail ∧
      List.Forall₂ (fun row name => ∃ shown, row.Names 2 shown ∧ Text.strip shown = Text.strip name) body names ∧
      ∀ row ∈ tail.head?, Hive.Ends row

/-! ## Honesty -/

/-- How a call may change a catalog. -/
def Dialect.Moves (d : Dialect) (t : Table) : Call → Outcome → Catalog → Catalog → Prop
  | .exec sql, .done, before, after => ∀ ddl, d.Builds t sql ddl → after = ddl.apply before
  | .exec sql, _, before, after => ∀ ddl, d.Builds t sql ddl → after.Within (ddl.apply before)
  | .query .., .done, before, after | .start, .done, before, after | .commit, .done, before, after =>
    after = before
  | _, _, before, after => after.Within before

/-- A server that answers the queries for a table from its catalog, and in whose catalog the statements for the
table have their effects. -/
structure Honest [Server σ] (d : Dialect) (t : Table) (view : σ → Catalog) : Prop where
  database : ∀ s rows, (Server.respond s (.query (d.databaseExists t.database).sql
      (d.databaseExists t.database).params)).1 = .rows rows →
    d.Answers rows t.database.text fun name => (view s).hasDatabase name = true
  table : ∀ s query rows, d.tableExists t.database t.name = .ok query →
    (Server.respond s (.query query.sql query.params)).1 = .rows rows →
    d.Answers rows t.name.text fun name => ((view s).columns (d.fold t.database.text) name).isSome = true
  column : ∀ s query rows, ∀ c ∈ t.columns, d.columnExists t.database t.name c.name = some query →
    (Server.respond s (.query query.sql query.params)).1 = .rows rows →
    (rows ≠ [] ↔ (view s).hasColumn d t c.name.text = true)
  describe : ∀ s sql rows names, d.describeTable t.database t.name = .ok sql →
    (Server.respond s (.query sql [])).1 = .rows rows → (view s).columnsOf d t = some names →
    d.Describes rows names
  moves : ∀ s c, d.Moves t c (Server.respond s c).1.outcome (view s) (view (Server.respond s c).2)

/-! ## Catalogs under statements -/

section Apply

variable (c : Catalog) (names : List String)

@[simp] theorem Catalog.hasHome_makeDatabase :
    ((Ddl.makeDatabase (d.fold t.database.text)).apply c).hasHome d t = true := by
  simp [Ddl.apply, Catalog.hasHome]

@[simp] theorem Catalog.columnsOf_makeDatabase (name : String) :
    ((Ddl.makeDatabase name).apply c).columnsOf d t = c.columnsOf d t := rfl

@[simp] theorem Catalog.hasHome_makeTable (home name : String) :
    ((Ddl.makeTable home name names).apply c).hasHome d t = c.hasHome d t := rfl

@[simp] theorem Catalog.columnsOf_makeTable :
    ((Ddl.makeTable (d.fold t.database.text) (d.fold t.name.text) names).apply c).columnsOf d t
      = some ((c.columnsOf d t).getD names) := by
  simp [Ddl.apply, Catalog.columnsOf]

@[simp] theorem Catalog.columnsOf_addColumns :
    ((Ddl.addColumns (d.fold t.database.text) (d.fold t.name.text) names).apply c).columnsOf d t
      = (c.columnsOf d t).map (· ++ names) := by
  simp [Ddl.apply, Catalog.columnsOf]

end Apply

/-! ## Names -/

theorem toNat_wordChar {c : Char} (h : Sql.isWordChar c = true) : c.toNat < 128 := by
  have hle : ∀ d : Char, c ≤ d → c.toNat ≤ d.toNat := fun _ hd => UInt32.le_iff_toNat_le.mp hd
  simp only [Sql.isWordChar, Sql.isLetter, Text.isAsciiDigit, Bool.or_eq_true, Bool.and_eq_true,
    decide_eq_true_eq] at h
  rcases h with ((h | h) | h) | rfl
  · exact Nat.lt_of_le_of_lt (hle 'z' h.2) (by decide)
  · exact Nat.lt_of_le_of_lt (hle 'Z' h.2) (by decide)
  · exact Nat.lt_of_le_of_lt h.2 (by decide)
  · decide

theorem of_wordChar {p : Char → Prop} (hp : ∀ n : Fin 128, Sql.isWordChar (Char.ofNat n) = true → p (Char.ofNat n))
    {c : Char} (h : Sql.isWordChar c = true) : p c := by
  have hc := hp ⟨c.toNat, toNat_wordChar h⟩
  rw [Char.ofNat_toNat] at hc
  exact hc h

theorem lower_wordChar {c : Char} (h : Sql.isWordChar c = true) :
    Sql.isWordChar c.toLower = true ∧ c.toLower.toLower = c.toLower :=
  of_wordChar (p := fun c => Sql.isWordChar c.toLower = true ∧ c.toLower.toLower = c.toLower) (by decide) h

theorem not_isBlank_wordChar {c : Char} (h : Sql.isWordChar c = true) : Text.isBlank c = false :=
  of_wordChar (p := fun c => Text.isBlank c = false) (by decide) h

theorem lower_name {s : String} (h : Sql.isName s.toList = true) :
    Sql.isName (Text.lower s).toList = true ∧ Text.lower (Text.lower s) = Text.lower s := by
  simp only [Sql.isName, Bool.and_eq_true, List.all_eq_true, Bool.not_eq_true', decide_eq_true_eq] at h
  obtain ⟨⟨hne, hlen⟩, hw⟩ := h
  have hl : (Text.lower s).toList = s.toList.map Char.toLower := by
    rw [Text.lower, String.toList_ofList, Text.lowerAfter_ascii fun c hc => toNat_wordChar (hw c hc)]
  have hw' : ∀ c ∈ s.toList.map Char.toLower, Sql.isWordChar c = true := by
    intro c hc
    obtain ⟨b, hb, rfl⟩ := List.mem_map.mp hc
    exact (lower_wordChar (hw b hb)).1
  refine ⟨?_, ?_⟩
  · rw [hl]
    simp only [Sql.isName, Bool.and_eq_true, List.all_eq_true, Bool.not_eq_true', decide_eq_true_eq]
    exact ⟨⟨by simpa using hne, by simpa using hlen⟩, hw'⟩
  · rw [← String.toList_inj, Text.lower, String.toList_ofList, hl,
      Text.lowerAfter_ascii fun c hc => toNat_wordChar (hw' c hc), List.map_map]
    exact List.map_congr_left fun c hc => (lower_wordChar (hw c hc)).2

theorem Dialect.fold_name {s : String} (h : Sql.isName s.toList = true) :
    Sql.isName (d.fold s).toList = true ∧ d.fold (d.fold s) = d.fold s := by
  cases d with
  | hive => exact lower_name h
  | mysql => exact ⟨h, rfl⟩
  | clickhouse => exact ⟨h, rfl⟩

theorem legible_of_isName {s : String} (h : Sql.isName s.toList = true) :
    Text.strip s = s ∧ s ≠ "" ∧ Text.startsWith s "#" = false := by
  simp only [Sql.isName, Bool.and_eq_true, List.all_eq_true, Bool.not_eq_true'] at h
  obtain ⟨⟨hne, -⟩, hw⟩ := h
  refine ⟨?_, ?_, ?_⟩
  · have hb : ∀ c ∈ s.toList, Text.isBlank c = false := fun c hc => not_isBlank_wordChar (hw c hc)
    rw [Text.strip, Text.trimWith_of_none hb, String.ofList_toList]
  · rintro rfl
    exact absurd hne (by decide)
  · cases hs : s.toList with
    | nil => simp [Text.startsWith, hs]
    | cons c cs =>
        have hc := hw c (by rw [hs]; exact List.mem_cons_self)
        have hcne : '#' ≠ c := by
          rintro rfl
          exact absurd hc (by decide)
        simp [Text.startsWith, hs, List.isPrefixOf, hcne]

/-! ## Names that can be read -/

/-- A column name that a describe row of Hive shows as it is: the row does not end the columns. -/
def Dialect.Legible (d : Dialect) (name : String) : Prop :=
  d = .hive → Text.strip name = name ∧ name ≠ "" ∧ Text.startsWith name "#" = false

def Catalog.Legible (c : Catalog) (d : Dialect) (t : Table) : Prop :=
  ∀ names, c.columnsOf d t = some names → ∀ name ∈ names, d.Legible name

/-- The columns of a table have names that may be written. -/
def Table.Named (t : Table) : Prop :=
  ∀ c ∈ t.columns, ∃ name, c.name = .string name ∧ Sql.isName name.toList = true

theorem Catalog.Within.refl (c : Catalog) : c.Within c :=
  ⟨fun _ h => h, fun _ _ names h => ⟨names, h, List.Subset.refl _⟩⟩

theorem Catalog.Legible.of_within {c c' : Catalog} (h : c'.Legible d t) (hw : c.Within c') : c.Legible d t := by
  intro names hn name hm
  obtain ⟨names', hn', hsub⟩ := hw.2 _ _ names hn
  exact h names' hn' name (hsub hm)

/-- A call that a task makes for a table. -/
inductive Dialect.Makes (d : Dialect) (t : Table) : Call → Prop
  | query {sql params} : Makes d t (.query sql params)
  | start : Makes d t .start
  | commit : Makes d t .commit
  | rollback : Makes d t .rollback
  | exec {sql ddl} (h : d.Builds t sql ddl) : Makes d t (.exec sql)

theorem Table.Named.fold (hn : t.Named) {c : Column} (hc : c ∈ t.columns) : d.Legible (d.fold c.name.text) := by
  obtain ⟨name, hname, hi⟩ := hn c hc
  rw [hname]
  exact fun _ => legible_of_isName (Dialect.fold_name hi).1

theorem Table.mem_columns {c : Column} (h : c ∈ t.listedColumns d ++ t.partitionColumns d) : c ∈ t.columns := by
  rcases List.mem_append.mp h with h | h
  · cases d with
    | hive => exact List.mem_of_mem_filter h
    | mysql => exact h
    | clickhouse => exact h
  · cases d with
    | hive => exact List.mem_of_mem_filter h
    | mysql => exact nomatch h
    | clickhouse => exact nomatch h

theorem Table.created_legible (hn : t.Named) : ∀ name ∈ t.created d, d.Legible name := by
  intro name hm
  rcases List.mem_append.mp hm with hm | hm
  · obtain ⟨c, hc, rfl⟩ := List.mem_map.mp hm
    exact hn.fold (Table.mem_columns hc)
  · split at hm
    · rename_i hd
      rintro rfl
      exact nomatch hd.1
    · exact nomatch hm

theorem Catalog.Legible.apply {c : Catalog} {sql : String} {ddl : Ddl} (hn : t.Named) (h : c.Legible d t)
    (hb : d.Builds t sql ddl) : (ddl.apply c).Legible d t := by
  intro names hnames name hm
  cases hb with
  | database =>
      rw [Catalog.columnsOf_makeDatabase] at hnames
      exact h names hnames name hm
  | table =>
      rw [Catalog.columnsOf_makeTable, Option.some.injEq] at hnames
      cases hc : c.columnsOf d t with
      | none =>
          rw [hc] at hnames
          subst hnames
          exact Table.created_legible hn name hm
      | some old =>
          rw [hc] at hnames
          subst hnames
          exact h old hc name hm
  | @columns batch _ hs _ =>
      rw [Catalog.columnsOf_addColumns] at hnames
      obtain ⟨old, hold, rfl⟩ := Option.map_eq_some_iff.mp hnames
      rcases List.mem_append.mp hm with hm | hm
      · exact h old hold name hm
      · obtain ⟨c, hc, rfl⟩ := List.mem_map.mp hm
        exact hn.fold (hs.subset hc)

/-- Only statements add to a catalog. -/
theorem Dialect.Moves.within {before after : Catalog} {call : Call} {outcome : Outcome}
    (hm : d.Moves t call outcome before after) (hc : ∀ sql, call ≠ .exec sql) : after.Within before := by
  cases call with
  | exec sql => exact absurd rfl (hc sql)
  | query | start | commit =>
      cases outcome with
      | done => exact (show after = before from hm) ▸ .refl _
      | refused => exact hm
      | broken => exact hm
  | _ => cases outcome <;> exact hm

theorem Catalog.Legible.step {before after : Catalog} {call : Call} {outcome : Outcome} (hn : t.Named)
    (h : before.Legible d t) (hc : d.Makes t call) (hm : d.Moves t call outcome before after) :
    after.Legible d t := by
  cases hc with
  | exec hb =>
      cases outcome with
      | done =>
          rw [hm _ hb]
          exact h.apply hn hb
      | refused => exact (h.apply hn hb).of_within (hm _ hb)
      | broken => exact (h.apply hn hb).of_within (hm _ hb)
  | query => exact h.of_within (hm.within fun _ => nofun)
  | start => exact h.of_within (hm.within fun _ => nofun)
  | commit => exact h.of_within (hm.within fun _ => nofun)
  | rollback => exact h.of_within (hm.within fun _ => nofun)

/-! ## Runs -/

/-- Nothing failed and nothing was rolled back. -/
def Task.Clean (new : List Event) : Prop := ∀ e ∈ new, e.outcome = .done ∧ e.call ≠ .rollback

section Runs

variable [Server σ] {view : σ → Catalog} {s : σ} {new : List Event}

theorem Honest.legible_after (hh : Honest d t view) (hn : t.Named) (h : (view s).Legible d t)
    (ha : Server.Answered s new) (hm : ∀ e ∈ new, d.Makes t e.call) :
    (view (Server.after s (new.map Event.call))).Legible d t := by
  induction new generalizing s with
  | nil => exact h
  | cons e new ih =>
      obtain ⟨he, hrest⟩ := List.forall_mem_cons.mp hm
      exact ih (h.step hn he (hh.moves s e.call)) ha.2 hrest

/-- Calls that are all done, no rollback among them, have the effects of their statements, one after another. -/
theorem Honest.view_after (hh : Honest d t view) {ddls : List Ddl} (ha : Server.Answered s new)
    (hm : ∀ e ∈ new, d.Makes t e.call) (hc : Task.Clean new)
    (hb : List.Forall₂ (fun s ddl => d.Builds t s.1 ddl) (Task.sent new) ddls) :
    view (Server.after s (new.map Event.call)) = applied ddls (view s) := by
  induction new generalizing s ddls with
  | nil =>
      cases hb
      rfl
  | cons e new ih =>
      obtain ⟨call, outcome⟩ := e
      obtain ⟨hmake, hmrest⟩ := List.forall_mem_cons.mp hm
      obtain ⟨⟨hdone, hback⟩, hcrest⟩ := List.forall_mem_cons.mp hc
      -- Each call leaves the catalog as it is or has the effect of its statement, since it was done.
      have hmove := hh.moves s call
      rw [← ha.1, show outcome = .done from hdone] at hmove
      cases hmake with
      | exec hbuild =>
          rw [Task.sent_exec] at hb
          obtain _ | ⟨hfirst, hrest⟩ := hb
          exact (ih ha.2 hmrest hcrest hrest).trans (congrArg (applied _) (hmove _ hfirst))
      | rollback => exact absurd rfl hback
      | query => exact (ih ha.2 hmrest hcrest hb).trans (congrArg (applied ddls) hmove)
      | start => exact (ih ha.2 hmrest hcrest hb).trans (congrArg (applied ddls) hmove)
      | commit => exact (ih ha.2 hmrest hcrest hb).trans (congrArg (applied ddls) hmove)

end Runs

end SinkKeeper
