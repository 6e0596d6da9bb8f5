import SinkKeeper.CommandLine.Ensure
import SinkKeeper.Json.Printer
import SinkKeeper.Proofs.Builders
import SinkKeeper.Server.Script

/-!
# Tables one by one

The command looks after each table of its schema file, in the order of the file and whatever became of the tables
before. It tells how each of them went, and its exit code is zero exactly if all went well.
-/

namespace SinkKeeper

/-! ## The database of a table -/

theorem Entries.put_put {α : Type} (name : String) (value other : α) (entries : List (String × α)) :
    put name value (put name other entries) = put name value entries := by
  induction entries with
  | nil => simp [put]
  | cons e entries ih =>
      obtain ⟨k, v⟩ := e
      by_cases hk : k = name <;> simp [put, hk, ih]

namespace Table

variable {fields : Json.Fields} {t : Table} {key : String}

theorem fieldOrNull_put (h : key ≠ "database") (database : Json) (fields : Json.Fields) :
    Json.fieldOrNull (Entries.put "database" database fields) key = Json.fieldOrNull fields key := by
  rw [Json.fieldOrNull, Entries.lookup_put_of_ne h, Json.fieldOrNull]

theorem field_put (h : key ≠ "database") (database : Json) (fields : Json.Fields) :
    (Json.object (Entries.put "database" database fields)).field key = (Json.object fields).field key := by
  simp only [Json.field, Entries.lookup_put_of_ne h]

theorem lookup_of_field {value : Json} (h : (Json.object fields).field key = .ok value) :
    fields.lookup key = some value := by
  unfold Json.field at h
  dsimp only at h
  split at h
  next hlookup =>
    cases h
    exact hlookup
  next => cases h

/-- A description names its database in one field, and all else is read from the others. -/
theorem ofJson_put (h : ofJson (.object fields) = .ok t) :
    fields.lookup "database" = some t.database ∧
      ∀ other, ofJson (.object (Entries.put "database" other fields)) = .ok { t with database := other } := by
  simp only [ofJson, Except.bind_eq_ok, Except.pure_eq_ok] at h
  obtain ⟨_, hfields, database, hdatabase, name, hname, columns, hcolumns, primaryKey, hprimaryKey, orderBy, horderBy,
    ttl, httl, rfl⟩ := h
  cases hfields
  refine ⟨lookup_of_field hdatabase, fun other => ?_⟩
  have hother : (Json.object (Entries.put "database" other fields)).field "database" = .ok other := by
    simp only [Json.field, Entries.lookup_put_self]
  have hname' : nameOf (.object (Entries.put "database" other fields)) (Entries.put "database" other fields) =
      .ok name := by
    rw [nameOf, fieldOrNull_put (by decide), field_put (by decide)]
    exact hname
  have hcolumns' : columnsOf (Entries.put "database" other fields) = .ok columns := by
    rw [columnsOf, Entries.lookup_put_of_ne (by decide)]
    exact hcolumns
  have httl' : ttlOf (Entries.put "database" other fields) = .ok ttl := by
    rw [ttlOf, fieldOrNull_put (by decide)]
    exact httl
  simp only [ofJson, Except.bind_eq_ok, Except.pure_eq_ok]
  refine ⟨_, rfl, other, hother, name, hname', columns, hcolumns', primaryKey, ?_, orderBy, ?_, ttl, httl', ?_⟩
  · rwa [fieldOrNull_put (by decide)]
  · rwa [fieldOrNull_put (by decide)]
  · simp (disch := decide) only [fieldOrNull_put]

end Table

namespace SchemaFile

/-- The table that the fields of an entry describe. The given database stands in for one that the entry does not name,
and changes nothing else. -/
structure Given (database : Option String) (fields : Json.Fields) (t : Table) : Prop where
  own : database.getD "" = "" ∨ (Json.fieldOrNull fields "database").isTruthy = true →
    fields.lookup "database" = some t.database
  given : ∀ name ∈ database, name ≠ "" → (Json.fieldOrNull fields "database").isTruthy = false →
    t.database = .string name
  others : ∀ other, Table.ofJson (.object (Entries.put "database" other fields)) = .ok { t with database := other }

theorem withDatabase_own {database : Option String} {fields : Json.Fields}
    (h : database.getD "" = "" ∨ (Json.fieldOrNull fields "database").isTruthy = true) :
    withDatabase database fields = fields := by
  unfold withDatabase
  split
  · rfl
  · rfl
  next name hne =>
    rw [if_pos (h.resolve_left hne)]

theorem withDatabase_given {name : String} {fields : Json.Fields} (hne : name ≠ "")
    (h : (Json.fieldOrNull fields "database").isTruthy = false) :
    withDatabase (some name) fields = Entries.put "database" (.string name) fields := by
  unfold withDatabase
  split
  next hnone => cases hnone
  next hempty => exact absurd (Option.some.inj hempty) hne
  next other _ heq =>
    cases heq
    rw [h]
    rfl

theorem given_of_tableOf {database : Option String} {entry : Json} {t : Table} (h : tableOf database entry = .ok t) :
    ∃ fields, entry = .object fields ∧ Given database fields t := by
  cases entry with
  | object fields =>
      refine ⟨fields, rfl, ?_⟩
      rw [tableOf] at h
      by_cases hstands : database.getD "" = "" ∨ (Json.fieldOrNull fields "database").isTruthy = true
      · rw [withDatabase_own hstands] at h
        obtain ⟨hown, hothers⟩ := Table.ofJson_put h
        refine ⟨fun _ => hown, fun name hname hne habsent => ?_, hothers⟩
        cases hname
        rcases hstands with hempty | htruthy
        · exact absurd hempty hne
        · exact absurd (habsent.symm.trans htruthy) Bool.false_ne_true
      · obtain ⟨name, hname⟩ : ∃ name, database = some name := by
          cases database with
          | none => exact absurd (.inl rfl) hstands
          | some name => exact ⟨name, rfl⟩
        subst hname
        rw [not_or, Bool.not_eq_true, Option.getD_some] at hstands
        rw [withDatabase_given hstands.1 hstands.2] at h
        obtain ⟨hgiven, hothers⟩ := Table.ofJson_put h
        rw [Entries.lookup_put_self, Option.some.injEq] at hgiven
        refine ⟨fun hcase => ?_, fun other hother _ _ => ?_, fun other => ?_⟩
        · exact absurd hcase (not_or.mpr ⟨hstands.1, by simp [hstands.2]⟩)
        · cases hother
          exact hgiven.symm
        · rw [← hothers other, Entries.put_put]
  | _ => cases h

/-- The entries of a document: those of a list, or of the list of tables in an object. -/
inductive Lists : Json → List Json → Prop
  | list {entries : List Json} : Lists (.array entries) entries
  | tables {fields : Json.Fields} {entries : List Json} (h : fields.lookup "tables" = some (.array entries)) :
      Lists (.object fields) entries
  | absent {fields : Json.Fields} (h : fields.lookup "tables" = none) : Lists (.object fields) []

theorem lists_of_entriesOf {document : Json} {entries : List Json} (h : entriesOf document = .ok entries) :
    Lists document entries := by
  unfold entriesOf at h
  split at h
  · cases h
    exact .list
  · split at h
    next hnone =>
      cases h
      exact .absent hnone
    next hsome =>
      cases h
      exact .tables hsome
    next => cases h
  · cases h

theorem read_given {database : Option String} {text : String} {tables : List Table}
    (h : read database text = .ok tables) :
    ∃ document entries, Json.parse text = .ok document ∧ Lists document entries ∧
      List.Forall₂ (fun entry t => ∃ fields, entry = .object fields ∧ Given database fields t) entries tables := by
  unfold read at h
  split at h
  · cases h
  next document hparse =>
    obtain ⟨entries, hentries, htables⟩ := Except.bind_eq_ok.mp h
    refine ⟨document, entries, hparse, lists_of_entriesOf (Except.liftShape_eq_ok.mp hentries), ?_⟩
    exact (Except.mapM_eq_ok.mp htables).imp fun entry t ht => given_of_tableOf (Except.liftShape_eq_ok.mp ht)

end SchemaFile

namespace CommandLine

variable {σ : Type} [Server σ] {sink : Sink} {env : Environment} {tables : List Table} {reports : List Report}
  {link link' : Link σ} {t : Table} {report : Report}

/-! ## One table after another -/

/-- Tables that are looked after in their order, each where the one before was left, whatever was reported of it. -/
inductive Looked (sink : Sink) (env : Environment) : List Table → Link σ → List Report → Link σ → Prop
  | done {link : Link σ} : Looked sink env [] link [] link
  | next {t : Table} {tables : List Table} {link link' link'' : Link σ} {report : Report} {reports : List Report}
      (hrun : sink.run env (.ensureTable t) link = .ok report link')
      (hrest : Looked sink env tables link' reports link'') :
      Looked sink env (t :: tables) link (report :: reports) link''

theorem Looked.length_eq (h : Looked sink env tables link reports link') : reports.length = tables.length := by
  induction h with
  | done => rfl
  | next _ _ ih => exact congrArg (· + 1) ih

/-- Looking after a table gives a report, wherever the tables before it leave the server. -/
def Returns (sink : Sink) (env : Environment) (tables : List Table) (link : Link σ) : Prop :=
  ∀ before t rest, tables = before ++ t :: rest → ∀ reports link', Looked sink env before link reports link' →
    ∃ report link'', sink.run env (.ensureTable t) link' = .ok report link''

theorem returns_cons : Returns sink env (t :: tables) link ↔
    ∃ report link', sink.run env (.ensureTable t) link = .ok report link' ∧ Returns sink env tables link' := by
  constructor
  · intro h
    obtain ⟨report, link', hrun⟩ := h [] t tables rfl [] link .done
    exact ⟨report, link', hrun, fun before t' rest hsplit reports after hlooked =>
      h (t :: before) t' rest (congrArg (t :: ·) hsplit) (report :: reports) after (.next hrun hlooked)⟩
  · rintro ⟨report, link', hrun, hrest⟩ before t' rest hsplit reports after hlooked
    cases hlooked with
    | done =>
        cases hsplit
        exact ⟨report, link', hrun⟩
    | next hfirst hbefore =>
        cases hsplit
        cases hrun.symm.trans hfirst
        exact hrest _ t' rest rfl _ after hbefore

theorem ensureAll_looked (h : Returns sink env tables link) :
    ∃ reports after, ensureAll sink env tables link = .ok (tables.zip reports) after ∧
      Looked sink env tables link reports after := by
  induction tables generalizing link with
  | nil => exact ⟨[], link, rfl, .done⟩
  | cons t rest ih =>
      obtain ⟨report, link', hrun, hrest⟩ := returns_cons.mp h
      obtain ⟨reports, after, hall, hlooked⟩ := ih hrest
      refine ⟨report :: reports, after, ?_, .next hrun hlooked⟩
      change EStateM.bind _ _ link = _
      simp only [EStateM.bind, hrun]
      change EStateM.bind _ _ link' = _
      simp only [EStateM.bind, hall]
      rfl

def decideReturns (sink : Sink) (env : Environment) :
    (tables : List Table) → (link : Link σ) → Decidable (Returns sink env tables link)
  | [], _ => isTrue fun before t rest hsplit => by cases before <;> cases hsplit
  | t :: rest, link =>
    match hrun : sink.run env (.ensureTable t) link with
    | .ok report link' =>
      @decidable_of_iff _ (Returns sink env rest link')
        (returns_cons.trans ⟨fun ⟨_, _, h, hrest⟩ => by cases hrun.symm.trans h; exact hrest,
          fun hrest => ⟨report, link', hrun, hrest⟩⟩).symm (decideReturns sink env rest link')
    | .error _ _ => isFalse fun h => by
        obtain ⟨_, _, hok, -⟩ := returns_cons.mp h
        cases hrun.symm.trans hok

instance : Decidable (Returns sink env tables link) := decideReturns sink env tables link

/-! ## What is told -/

/-- The line tells how looking after a table went. -/
structure Tells (t : Table) (report : Report) (line : Line) : Prop where
  stream : line.stream = .error ↔ report.success = false
  failed : ∀ e ∈ report.failure, line.text = "  " ++ t.label ++ ": FAILED - " ++ e.message
  kept : report.success = true → line.text = "  " ++ t.label ++ ": " ++
    (if report.executed = [] then "up to date" else toString report.executed.length ++ " statement(s)") ++ ", " ++
    toString report.columns.length ++ " column(s)"

theorem lineOf_tells (t : Table) (report : Report) : Tells t report (lineOf t report) := by
  have hsuccess : report.success = report.failure.isNone := rfl
  unfold lineOf
  cases hfailure : report.failure with
  | some e =>
      rw [hfailure, Option.isNone_some] at hsuccess
      exact ⟨by simp [hsuccess], by simp [hfailure], by simp [hsuccess]⟩
  | none =>
      rw [hfailure, Option.isNone_none] at hsuccess
      exact ⟨by simp [hsuccess], by simp [hfailure], by simp⟩

/-- What the command prints and its exit code: a line for each table and then a summary, and zero exactly if all went
well. -/
structure Sums (path : String) (tables : List Table) (reports : List Report) (exit : Nat) (lines : List Line) :
    Prop where
  zero : exit = 0 ↔ ∀ report ∈ reports, report.success = true
  one : exit ≠ 0 → exit = 1
  lines : ∃ told, lines = told ++ [⟨.output, "Done. " ++ toString (reports.countP Report.success) ++ " of " ++
      toString tables.length ++ " table(s) in line with " ++ path⟩] ∧
    List.Forall₂ (fun p line => Tells p.1 p.2 line) (tables.zip reports) told

theorem endingOf_sums (path : String) (h : reports.length = tables.length) :
    ∃ exit lines, endingOf path (tables.zip reports) = .ended exit lines ∧ Sums path tables reports exit lines := by
  have hsecond : (tables.zip reports).map Prod.snd = reports := List.map_snd_zip (Nat.le_of_eq h)
  have hcount : (tables.zip reports).countP (fun r => r.2.success) = reports.countP Report.success := by
    conv_rhs => rw [← hsecond, List.countP_map]
    rfl
  have hlength : (tables.zip reports).length = reports.length := by
    rw [List.length_zip, h, Nat.min_self]
  refine ⟨_, _, rfl, ?_, ?_, (tables.zip reports).map fun r => lineOf r.1 r.2, ?_, ?_⟩
  · rw [hcount, hlength, ← List.countP_eq_length]
    simp
  · intro hne
    split at hne
    · exact absurd rfl hne
    · next hfailed => rw [if_neg hfailed]
  · rw [hcount, hlength, h]
    rfl
  · rw [List.forall₂_map_right_iff]
    exact List.forall₂_same.mpr fun p _ => lineOf_tells p.1 p.2

/-! ## The command -/

/-- The link with notes that are left on it. -/
def noting (link : Link σ) (notes : List Note) : Link σ := { link with notes := link.notes ++ notes }

/-- The command looks after each table of its file once, in order and whatever became of those before. It tells of each
of them, and then of all, and its exit code is zero exactly if all went well. The tables are those of the file, with
the given database where an entry names none. -/
theorem run_looks {s : Surroundings} {words : List String} {r : Request} {loading : Loading}
    (hwords : read words = .ok r) (hload : s.load = .ok () loading) (htables : tablesOf s.folder r = .ok tables)
    (hreturns : Returns (sinkOf r loading.environment) loading.environment tables (noting link loading.notes)) :
    (∃ reports exit lines after, run s words link = .ok (.ended exit lines) after ∧
      Looked (sinkOf r loading.environment) loading.environment tables (noting link loading.notes) reports after ∧
      reports.length = tables.length ∧ Sums (FilePath.normal r.schema) tables reports exit lines) ∧
    ∃ text document entries, s.folder.readText (FilePath.normal r.schema) = .ok text ∧
      Json.parse text = .ok document ∧ SchemaFile.Lists document entries ∧
      List.Forall₂ (fun entry t => ∃ fields, entry = .object fields ∧ SchemaFile.Given r.database fields t)
        entries tables := by
  constructor
  · obtain ⟨reports, after, hall, hlooked⟩ := ensureAll_looked hreturns
    obtain ⟨exit, lines, hending, hsums⟩ := endingOf_sums (FilePath.normal r.schema) hlooked.length_eq
    refine ⟨reports, exit, lines, after, ?_, hlooked, hlooked.length_eq, hsums⟩
    have hloaded : loadEnvironment s link = .ok loading.environment (noting link loading.notes) := by
      simp only [loadEnvironment, hload]
      rfl
    have hensure : ensure s.folder loading.environment r (noting link loading.notes) =
        .ok (.ended exit lines) after := by
      rw [← hending]
      unfold ensure
      simp only [htables]
      change EStateM.bind _ _ _ = _
      rw [EStateM.bind, hall]
      rfl
    simp only [run, hwords]
    change EStateM.bind _ _ _ = _
    rw [EStateM.bind, hloaded]
    exact hensure
  · obtain ⟨text, htext, hread⟩ := Except.bind_eq_ok.mp htables
    obtain ⟨document, entries, hparse, hlists, hgiven⟩ := SchemaFile.read_given hread
    exact ⟨text, document, entries, htext, hparse, hlists, hgiven⟩

/-- What the command is to do, if its words, its settings and its file can be read. -/
def commanded? (s : Surroundings) (words : List String) : Option (Request × Loading × List Table) :=
  match read words, s.load with
  | .ok r, .ok _ loading => (tablesOf s.folder r).toOption.map fun tables => (r, loading, tables)
  | _, _ => none

theorem read_of_commanded? {s : Surroundings} {words : List String} {r : Request} {loading : Loading}
    (h : commanded? s words = some (r, loading, tables)) :
    read words = .ok r ∧ s.load = .ok () loading ∧ tablesOf s.folder r = .ok tables := by
  unfold commanded? at h
  split at h
  next hwords hload =>
    obtain ⟨_, htables, hsame⟩ := Option.map_eq_some_iff.mp h
    cases hsame
    exact ⟨hwords, hload, Except.toOption_eq_some.mp htables⟩
  next => cases h

/-- A folder with two tables in its schema file. The first is misnamed, and the second names its database. -/
def twoTables : Surroundings where
  folder := ⟨[("t", Text.Utf8.encode ((Json.array [.object [("table", .string "a;")],
    .object [("database", .string "own"), ("table", .string "b"),
      ("columns", .array [.object [("name", .string "c"), ("type", .string "INT")]])]]).render .compact).toList)]⟩
  home := ⟨[]⟩
  environment := .empty
  vault := .ofList []

def twoWords : List String :=
  ["--engine", "mysql", "--url", "jdbc:mysql://localhost:3306", "--user", "root", "--database", "db", "t"]

def printed? : EStateM.Result Failure (Link Script) Ending → Option (Nat × List Line)
  | .ok (.ended exit lines) _ => some (exit, lines)
  | .ok (.refused _) _ | .error _ _ => none

/-- The first table fails, and the second is looked after all the same. -/
theorem run_looks_mixed :
    ∃ r loading tables, read twoWords = .ok r ∧ twoTables.load = .ok () loading ∧
      tablesOf twoTables.folder r = .ok tables ∧
      Returns (sinkOf r loading.environment) loading.environment tables (noting (.fresh Script.empty) loading.notes) ∧
      ∃ reports exit lines after, run twoTables twoWords (.fresh Script.empty) = .ok (.ended exit lines) after ∧
        Sums (FilePath.normal r.schema) tables reports exit lines ∧
        exit = 1 ∧ lines = [
          ⟨.error, "  db.a;: FAILED - Invalid table name: 'a;'"⟩,
          ⟨.output, "  own.b: 2 statement(s), 0 column(s)"⟩,
          ⟨.output, "Done. 1 of 2 table(s) in line with t"⟩] := by
  have hcommand : (commanded? twoTables twoWords).any (fun p => decide (Returns (sinkOf p.1 p.2.1.environment)
      p.2.1.environment p.2.2 (noting (.fresh Script.empty) p.2.1.notes))) = true := by decide +kernel
  have hprinted : printed? (run twoTables twoWords (.fresh Script.empty)) = some (1, [
      ⟨.error, "  db.a;: FAILED - Invalid table name: 'a;'"⟩,
      ⟨.output, "  own.b: 2 statement(s), 0 column(s)"⟩,
      ⟨.output, "Done. 1 of 2 table(s) in line with t"⟩]) := by decide +kernel
  obtain ⟨⟨r, loading, tables⟩, hread, hdecided⟩ := (Option.any_eq_true _ _).mp hcommand
  have hreturns := decide_eq_true_iff.mp hdecided
  obtain ⟨hwords, hload, htables⟩ := read_of_commanded? hread
  obtain ⟨⟨reports, exit, lines, after, hrun, -, -, hsums⟩, -⟩ := run_looks hwords hload htables hreturns
  rw [hrun, printed?, Option.some.injEq, Prod.mk.injEq] at hprinted
  exact ⟨r, loading, tables, hwords, hload, htables, hreturns, reports, exit, lines, after, hrun, hsums, hprinted⟩

end CommandLine

end SinkKeeper
