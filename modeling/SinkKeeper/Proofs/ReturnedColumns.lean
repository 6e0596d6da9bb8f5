import SinkKeeper.Json.Equality
import SinkKeeper.Proofs.Effects
import SinkKeeper.Proofs.Making

/-!
# Columns that come back

A column is written without its fields that are null, and what is written is read as the same column. So a column that
an endpoint lists can be sent back as it is: whoever adds it to a table names the column that was listed.
-/

namespace SinkKeeper

/-! ## Fields that are left out -/

namespace Column

variable {c : Column} {key : String}

/-- The fields of a column that are written. -/
def written (c : Column) : Json.Fields := c.fields.filter fun p => !p.2.isNull

theorem toJson_eq (c : Column) : c.toJson = .object c.written := rfl

def names : List String :=
  ["name", "type", "comment", "nullable", "default_value", "default_kind", "default_expr", "compression_codec",
    "ttl_expr", "partition"]

theorem names_fields (c : Column) : c.fields.map (·.1) = names := rfl

theorem nodup_fields (c : Column) : (c.fields.map (·.1)).Nodup := by
  rw [names_fields]
  decide

theorem lookup_written (c : Column) (key : String) :
    c.written.lookup key = (c.fields.lookup key).filter fun value => !value.isNull :=
  Entries.lookup_filter c.nodup_fields fun value => !value.isNull

theorem fieldOrNull_written (c : Column) (key : String) :
    Json.fieldOrNull c.written key = Json.fieldOrNull c.fields key := by
  rw [Json.fieldOrNull, Json.fieldOrNull, lookup_written]
  cases c.fields.lookup key with
  | none => rfl
  -- A field that is left out held null, and null is what a reader takes for it.
  | some value => cases value <;> rfl

theorem textOrNone_optional (o : Option String) : textOrNone (.optional o) = o := by
  cases o <;> rfl

theorem flag_written {b : Bool} (h : c.fields.lookup key = some (.bool b)) (absent : Bool) :
    flag c.written key absent = b := by
  rw [flag, lookup_written, h]
  rfl

/-- The column that fields describe beside its name and its type. -/
def ofFields (name type : Json) (fields : Json.Fields) : Column where
  name := name
  type := type
  comment := Json.fieldOrNull fields "comment"
  nullable := flag fields "nullable" true
  defaultValue := textOrNone (Json.fieldOrNull fields "default_value")
  defaultKind := Json.fieldOrNull fields "default_kind"
  defaultExpr := Json.fieldOrNull fields "default_expr"
  codec := Json.fieldOrNull fields "compression_codec"
  ttlExpr := Json.fieldOrNull fields "ttl_expr"
  partition := flag fields "partition" false

theorem ofJson_object {fields : Json.Fields} {name type : Json} (hname : fields.lookup "name" = some name)
    (htype : fields.lookup "type" = some type) : ofJson (.object fields) = .ok (ofFields name type fields) := by
  unfold ofJson
  simp only [Json.field, hname, htype]
  rfl

theorem ofFields_written (c : Column) : ofFields c.name c.type c.written = c := by
  have hliteral : textOrNone (Json.fieldOrNull c.fields "default_value") = c.defaultValue :=
    textOrNone_optional c.defaultValue
  have hnullable : flag c.written "nullable" true = c.nullable := flag_written rfl true
  have hpartition : flag c.written "partition" false = c.partition := flag_written rfl false
  simp only [ofFields, fieldOrNull_written, hliteral, hnullable, hpartition]
  rfl

/-- A column with a name and a type is written, and read again as it was. -/
theorem ofJson_toJson (hname : c.name.isNull = false) (htype : c.type.isNull = false) : ofJson c.toJson = .ok c := by
  have hwritten : ∀ {key value}, c.fields.lookup key = some value → value.isNull = false →
      c.written.lookup key = some value := by
    intro key value h hvalue
    rw [lookup_written, h, Option.filter_some, hvalue]
    rfl
  rw [toJson_eq, ofJson_object (hwritten rfl hname) (hwritten rfl htype), ofFields_written]

/-! ## What is kept of a description -/

def looseNames : List String :=
  ["name", "type", "comment", "default_kind", "default_expr", "compression_codec", "ttl_expr"]

/-- The flags, with the values they have where they are absent. -/
def flags : List (String × Bool) := [("nullable", true), ("partition", false)]

/-- What is written of a column keeps what its description told: each field that is there and not null, be it empty,
false or zero. Flags are told also where the description left them out. -/
structure Keeps (described written : Json.Fields) : Prop where
  loose : ∀ key ∈ looseNames, written.lookup key = (described.lookup key).filter fun value => !value.isNull
  literal : written.lookup "default_value" =
    ((described.lookup "default_value").filter fun value => !value.isNull).map fun value => .string value.text
  flag : ∀ p ∈ flags, written.lookup p.1 = some (.bool (((described.lookup p.1).map Json.isTruthy).getD p.2))
  names : ∀ p ∈ written, p.1 ∈ looseNames ∨ p.1 = "default_value" ∨ p.1 ∈ flags.map (·.1)

theorem filter_fieldOrNull (fields : Json.Fields) (key : String) :
    (some (Json.fieldOrNull fields key)).filter (fun value => !value.isNull) =
      (fields.lookup key).filter fun value => !value.isNull := by
  rw [Json.fieldOrNull]
  cases fields.lookup key <;> rfl

theorem filter_textOrNone (fields : Json.Fields) (key : String) :
    (some (Json.optional (textOrNone (Json.fieldOrNull fields key)))).filter (fun value => !value.isNull) =
      ((fields.lookup key).filter fun value => !value.isNull).map fun value => .string value.text := by
  rw [Json.fieldOrNull]
  cases fields.lookup key with
  | none => rfl
  | some value => cases value <;> rfl

theorem keeps_ofFields {fields : Json.Fields} {name type : Json} (hname : fields.lookup "name" = some name)
    (htype : fields.lookup "type" = some type) : Keeps fields (ofFields name type fields).written where
  loose := by
    have hname' : Json.fieldOrNull fields "name" = name := by rw [Json.fieldOrNull, hname]; rfl
    have htype' : Json.fieldOrNull fields "type" = type := by rw [Json.fieldOrNull, htype]; rfl
    have hread : ∀ key ∈ looseNames,
        (ofFields name type fields).fields.lookup key = some (Json.fieldOrNull fields key) := by
      simp only [looseNames, List.forall_mem_cons, hname', htype']
      exact ⟨rfl, rfl, rfl, rfl, rfl, rfl, rfl, List.forall_mem_nil _⟩
    intro key hkey
    rw [lookup_written, hread key hkey, filter_fieldOrNull]
  literal := by
    rw [lookup_written, ← filter_textOrNone]
    rfl
  flag := by
    simp only [flags, List.forall_mem_cons, lookup_written]
    exact ⟨rfl, rfl, List.forall_mem_nil _⟩
  names := by
    have hnames : ∀ name ∈ names, name ∈ looseNames ∨ name = "default_value" ∨ name ∈ flags.map (·.1) := by decide
    intro p hp
    refine hnames p.1 ?_
    rw [← names_fields (ofFields name type fields)]
    exact List.mem_map_of_mem (List.mem_of_mem_filter hp)

/-! ## Columns of rows -/

/-- A column with texts for its name and its type. -/
structure Named (c : Column) : Prop where
  name : ∃ s, c.name = .string s
  type : ∃ s, c.type = .string s

theorem Named.comes_back (h : c.Named) : ofJson c.toJson = .ok c := by
  obtain ⟨⟨name, hname⟩, type, htype⟩ := h
  exact ofJson_toJson (by rw [hname]; rfl) (by rw [htype]; rfl)

end Column

variable {d : Dialect} {row : Row} {rows : List Row} {c : Column} {columns : List Column}

theorem Mysql.named_of_row (h : Mysql.columnOfRow row = .ok c) : c.Named := by
  simp only [Mysql.columnOfRow, Except.bind_eq_ok, Except.pure_eq_ok] at h
  obtain ⟨name, -, type, -, comment, -, nullable, -, default, -, rfl⟩ := h
  exact ⟨⟨_, rfl⟩, _, rfl⟩

theorem Hive.named_of_row (h : Hive.columnOfRow row = .ok c) : c.Named := by
  simp only [Hive.columnOfRow, Except.bind_eq_ok, Except.pure_eq_ok] at h
  obtain ⟨name, -, type, -, comment, -, rfl⟩ := h
  exact ⟨⟨_, rfl⟩, _, rfl⟩

theorem Clickhouse.named_of_row (h : Clickhouse.columnOfRow row = .ok (some c)) : c.Named := by
  obtain ⟨name, -, h⟩ := Except.bind_eq_ok.mp h
  dsimp only at h
  split at h
  on_goal 1 => split at h
  · cases h
  -- A name that is no text, and one that is not set apart, are followed by the same cells.
  all_goals
    simp only [Except.bind_eq_ok, Except.pure_eq_ok, Option.some.injEq] at h
    obtain ⟨type, -, kind, -, expression, -, comment, -, codec, -, ttl, -, rfl⟩ := h
    exact ⟨⟨_, rfl⟩, _, rfl⟩

theorem named_of_row (h : d.columnOfRow row = .ok (some c)) : c.Named := by
  cases d with
  | mysql =>
      obtain ⟨_, hc, hsome⟩ := Except.map_eq_ok.mp h
      cases hsome
      exact Mysql.named_of_row hc
  | hive =>
      obtain ⟨_, hc, hsome⟩ := Except.map_eq_ok.mp h
      cases hsome
      exact Hive.named_of_row hc
  | clickhouse => exact Clickhouse.named_of_row h

/-- Each column that is listed comes of a row. -/
theorem exists_row_of_mem (h : d.columnsOfRows rows = .ok columns) (hc : c ∈ columns) :
    ∃ row ∈ rows, d.columnOfRow row = .ok (some c) := by
  induction rows generalizing columns with
  | nil =>
      cases h
      cases hc
  | cons row rows ih =>
      obtain ⟨ended, -, h⟩ := Except.bind_eq_ok.mp h
      cases ended with
      | true =>
          cases h
          cases hc
      | false =>
          obtain ⟨column, hcolumn, h⟩ := Except.bind_eq_ok.mp h
          obtain ⟨others, hothers, h⟩ := Except.bind_eq_ok.mp h
          cases h
          obtain hfirst | hlater := List.mem_append.mp hc
          · exact ⟨row, List.mem_cons_self, by rw [hcolumn, Option.mem_toList.mp hfirst]⟩
          · obtain ⟨source, hsource, hread⟩ := ih hothers hlater
            exact ⟨source, List.mem_cons_of_mem _ hsource, hread⟩

/-! ## Columns in a document -/

namespace Web

theorem publicItems_eq_self {items : List Json} (h : ∀ item ∈ items, publicPart item = item) :
    publicItems items = items := by
  induction items with
  | nil => rfl
  | cons item items ih =>
      obtain ⟨hitem, hitems⟩ := List.forall_mem_cons.mp h
      rw [publicItems, hitem, ih hitems]

theorem publicFields_eq_self {fields : Json.Fields}
    (h : ∀ p ∈ fields, Text.startsWith p.1 privateStart = false ∧ publicPart p.2 = p.2) :
    publicFields fields = fields := by
  induction fields with
  | nil => rfl
  | cons p fields ih =>
      obtain ⟨⟨hname, hvalue⟩, hfields⟩ := List.forall_mem_cons.mp h
      rw [publicFields, if_neg (by rw [hname]; exact Bool.false_ne_true), hvalue, ih hfields]

theorem publicPart_column (h : c.Observed) : publicPart c.toJson = c.toJson := by
  have hnames : ∀ name ∈ Column.names, Text.startsWith name privateStart = false := by decide
  have hvalues : ∀ p ∈ c.fields, publicPart p.2 = p.2 := by
    intro p hp
    obtain (hnull | ⟨s, htext⟩) | ⟨b, hflag⟩ := h.fields p hp
    · rw [hnull]
      rfl
    · rw [htext]
      rfl
    · rw [hflag]
      rfl
  refine congrArg Json.object (publicFields_eq_self fun p hp => ?_)
  have hp' : p ∈ c.fields := List.mem_of_mem_filter hp
  exact ⟨hnames p.1 (List.mem_map_of_mem (f := (·.1)) hp'), hvalues p hp'⟩

end Web

/-! ## Columns that are sent back -/

theorem mapM_ofJson (h : ∀ c ∈ columns, c.Named) : (columns.map Column.toJson).mapM Column.ofJson = .ok columns := by
  induction columns with
  | nil => rfl
  | cons c columns ih =>
      obtain ⟨hc, hcolumns⟩ := List.forall_mem_cons.mp h
      rw [List.map_cons, List.mapM_cons, hc.comes_back, ih hcolumns]
      rfl

variable {form : Json.Fields}

theorem Table.columnsOf_toJson (h : ∀ c ∈ columns, c.Named)
    (hlisted : form.lookup "columns" = some (.array (columns.map Column.toJson))) : columnsOf form = .ok columns := by
  unfold columnsOf
  rw [hlisted]
  exact mapM_ofJson h

theorem Table.ofJson_listed {database name items : Json} (hname : name.isTruthy = true)
    (hcolumns : columnsOf [("database", database), ("name", name), ("columns", items)] = .ok columns) :
    ∃ t, ofJson (.object [("database", database), ("name", name), ("columns", items)]) = .ok t ∧
      t.columns = columns := by
  have hname' : nameOf (.object [("database", database), ("name", name), ("columns", items)])
      [("database", database), ("name", name), ("columns", items)] = .ok name := if_pos hname
  simp only [ofJson, Json.fieldsFor, bind, Except.bind, hname', hcolumns]
  exact ⟨_, rfl, rfl⟩

namespace Web

theorem nameComplaints_plain (place : List Step) (fields : Json.Fields) : nameComplaints place fields = [] :=
  List.flatMap_eq_nil_iff.mpr fun _ _ => rfl

theorem itemComplaints_toJson (place : List Step) (index : Nat) (columns : List Column) :
    itemComplaints place index (columns.map Column.toJson) = [] := by
  induction columns generalizing index with
  | nil => rfl
  | cons c columns ih =>
      rw [List.map_cons, Column.toJson, itemComplaints, nameComplaints_plain]
      exact ih (index + 1)

/-- Fields take columns back as they were listed. In a form to add columns, nothing of them is complained about, and
the table that is asked for has them. So has a table that the fields describe. -/
structure Takes (fields : Json.Fields) (columns : List Column) : Prop where
  uncomplained : fieldComplaints fields "columns" .objects = []
  asked : (Json.fieldOrNull fields "table").isTruthy = true →
    ∃ t, SinkTask.addColumns.operation fields = .ok (.addColumns t) ∧ t.columns = columns
  described : ∀ t, Table.ofJson (.object fields) = .ok t → t.columns = columns

theorem takes_of_listed (h : ∀ c ∈ columns, c.Named)
    (hlisted : form.lookup "columns" = some (.array (columns.map Column.toJson))) : Takes form columns where
  uncomplained := by
    unfold fieldComplaints
    rw [hlisted]
    exact itemComplaints_toJson _ _ _
  asked := by
    intro htable
    have hread : ∃ t, Table.ofJson (tableIn form .addColumns) = .ok t ∧ t.columns = columns := by
      rw [tableIn, hlisted]
      exact Table.ofJson_listed htable (Table.columnsOf_toJson h rfl)
    obtain ⟨t, ht, hcolumns⟩ := hread
    exact ⟨t, congrArg (Except.map Operation.addColumns) ht, hcolumns⟩
  described := by
    intro t ht
    simp only [Table.ofJson, Json.fieldsFor, Except.bind_eq_ok, Except.pure_eq_ok] at ht
    obtain ⟨_, hfields, database, -, name, -, found, hfound, primaryKey, -, orderBy, -, ttl, -, rfl⟩ := ht
    cases hfields
    exact Except.ok.inj (hfound.symm.trans (Table.columnsOf_toJson h hlisted))

end Web

/-! ## Listing columns -/

variable {σ : Type} [Server σ]

theorem Task.columnsOfRows_of_columns {database table : Json} {link link' : Link σ}
    (h : Task.columns d database table link = .ok columns link') : ∃ rows, d.columnsOfRows rows = .ok columns := by
  obtain ⟨sql, _, -, h⟩ := Task.bind_eq_ok.mp h
  obtain ⟨rows, _, -, h⟩ := Task.bind_eq_ok.mp h
  cases hread : d.columnsOfRows rows with
  | ok found =>
      rw [hread] at h
      cases h
      exact ⟨rows, hread⟩
  | error e =>
      rw [hread] at h
      cases h

/-- What holds of every report over a connection holds of a report of success over a connection of its own. -/
theorem Sink.run_tells {P : Report → Prop} {s : Sink} {op : Operation} (env : Environment) (link : Link σ)
    (hop : ∀ (link : Link σ) report after, op.run s.dialect link = .ok report after → P report) :
    Task.Ends (s.run env op) link fun _ r _ => ∀ report, r = .ok report → report.success = true → P report := by
  have hbody : ∀ link' : Link σ,
      Task.Ends (op.run s.dialect) link' fun _ r _ => ∀ report, r = .ok report → P report := by
    intro link'
    have hruns : Task.Runs s.dialect True (op.run s.dialect) link' _ _ := op.run_runs (.inl trivial) (.inl trivial)
    obtain ⟨new, r, after, he, hx, -⟩ := hruns
    refine ⟨new, r, after, he, hx, ?_⟩
    rintro report rfl
    exact hop _ _ _ he
  refine .report
    ((withConnection_ends (Q := fun _ _ r => ∀ report, r = .ok report → P report) fun _ _ link' _ => hbody link').mono
      fun new r link' _ hsession report hreport hs => ?_)
  rw [Task.reported_eq_ok hreport hs] at hsession
  obtain ⟨_, _, _, _, _, hreports, -⟩ := hsession.used_of_ok
  exact hreports report rfl

theorem Operation.listColumns_tells {database table : Json} {link link' : Link σ} {report : Report}
    (h : (Operation.listColumns database table).run d link = .ok report link') :
    ∃ rows, d.columnsOfRows rows = .ok report.columns := by
  obtain ⟨columns, _, hcolumns, h⟩ := Task.bind_eq_ok.mp h
  obtain ⟨rfl, -⟩ := Task.pure_eq_ok.mp h
  exact Task.columnsOfRows_of_columns hcolumns

namespace Web

variable {engine : String} {request : Request} {response : Response}

/-- The columns that a response tells, if it is a report. -/
def Response.columns? (response : Response) : Option (List Json) :=
  match response.content with
  | .document document =>
    match document.field "columns" with
    | .ok (.array items) => some items
    | _ => none
  | _ => none

/-- A response lists columns that were read off rows of an engine. -/
structure Lists (engine : String) (columns : List Column) (response : Response) : Prop where
  rows : ∃ d rows, Dialect.ofName (.string engine) = .ok (some d) ∧ d.columnsOfRows rows = .ok columns
  told : response.columns? = some (columns.map Column.toJson)

/-- What a request to list columns ends with lists some, if it is a success. -/
def ListsColumns (engine : String) (r : Except Failure Response) : Prop :=
  ∀ response, r = .ok response → response.isSuccess = true → ∃ columns, Lists engine columns response

theorem listsColumns_error {e : Failure} : ListsColumns engine (.error e) := fun _ hresponse => nomatch hresponse

theorem listsColumns_ok (h : response.isSuccess = true → ∃ columns, Lists engine columns response) :
    ListsColumns engine (.ok response) := by
  intro answered hresponse
  cases hresponse
  exact h

theorem listsColumns_refused (h : response.isSuccess = false) : ListsColumns engine (.ok response) := by
  refine listsColumns_ok fun hsuccess => ?_
  rw [h] at hsuccess
  cases hsuccess

theorem isSuccess_report (report : Report) : (reportResponse report).isSuccess = report.success := by
  obtain ⟨columns, tables, executed, failure⟩ := report
  cases failure with
  | none => rfl
  | some e => cases e <;> rfl

theorem lists_report {report : Report} (hknown : Dialect.ofName (.string engine) = .ok (some d))
    (hrows : d.columnsOfRows rows = .ok report.columns) : Lists engine report.columns (reportResponse report) where
  rows := ⟨d, rows, hknown, hrows⟩
  told := by
    have hpublic : publicItems (report.columns.map Column.toJson) = report.columns.map Column.toJson :=
      publicItems_eq_self (List.forall_mem_map.mpr fun c hc => publicPart_column (columnsOfRows_comes.2 _ hrows c hc))
    rw [← hpublic]
    rfl

theorem serveSink_lists (env : Environment) (engine : String) (form : Json.Fields) (b : Backends σ) :
    Serving.Ends (serveSink env engine .listColumns form) b fun r _ => ListsColumns engine r := by
  unfold serveSink
  cases hknown : Dialect.ofName (.string engine) with
  | error e => exact absurd hknown ofName_ne_error
  | ok known =>
      cases known with
      | none => exact .pure (listsColumns_refused rfl)
      | some d =>
          refine .bind (.onSink ((Sink.run_tells env b.link fun _ _ _ => Operation.listColumns_tells).mono ?_))
          intro _ r _ _ hr
          cases r with
          | error e => exact listsColumns_error
          | ok report =>
              refine .pure (listsColumns_ok fun hsuccess => ?_)
              rw [isSuccess_report] at hsuccess
              obtain ⟨rows, hrows⟩ := hr report rfl hsuccess
              exact ⟨report.columns, lists_report hknown hrows⟩

theorem App.serve_lists (app : App) (request : Request) (engine : String) (b : Backends σ) :
    Serving.Ends (app.serve request (.sink engine .listColumns)) b fun r _ => ListsColumns engine r := by
  unfold App.serve
  dsimp only
  cases hbody : readBody request with
  | error refusal => exact .pure (listsColumns_refused (readBody_refuses hbody))
  | ok body =>
      dsimp only
      cases hgate : gate app.environment request with
      | some refusal => exact .pure (listsColumns_refused (refusal_of_gate hgate))
      | none =>
          refine .bind (.lift ?_)
          cases hcheck : checkBody SinkTask.listColumns.formFields body with
          | error e => exact listsColumns_error
          | ok checked =>
              cases checked with
              | error complaints => exact .pure (listsColumns_refused rfl)
              | ok form => exact serveSink_lists _ _ _ _

theorem App.answer_lists (app : App) (hroute : route request = .ok (.sink engine .listColumns)) (b : Backends σ) :
    Serving.Ends (app.answer request) b fun r _ => ListsColumns engine r := by
  unfold App.answer
  rw [hroute]
  refine .bind ((app.serve_lists request engine b).mono fun r after hr => ?_)
  cases r with
  | error e => exact listsColumns_error
  | ok response =>
      refine .lift ?_
      cases hsent : response.sent with
      | error e => exact listsColumns_error
      | ok sent =>
          rw [Response.eq_of_sent hsent]
          exact hr

end Web

/-- A column that is described with a name and a type keeps what the description told, and a column of a row is written
with all that it has; both are read again as they were. What the endpoint that lists columns answers with success lists
columns of rows, and these, or some of them, are taken back as they were listed. -/
theorem columns_return :
    (∀ (described : Json.Fields) (name type : String), described.lookup "name" = some (.string name) →
      described.lookup "type" = some (.string type) →
      ∃ c, Column.ofJson (.object described) = .ok c ∧ Column.ofJson c.toJson = .ok c ∧
        ∃ written, c.toJson = .object written ∧ Column.Keeps described written) ∧
    (∀ (d : Dialect) (row : Row) (c : Column), d.columnOfRow row = .ok (some c) →
      Column.ofJson c.toJson = .ok c ∧ ∃ written, c.toJson = .object written ∧
        ∀ key, written.lookup key = (c.fields.lookup key).filter fun value => !value.isNull) ∧
    ∀ (app : Web.App) (request : Web.Request) (engine : String) (b after : Web.Backends σ) (response : Web.Response),
      Web.route request = .ok (.sink engine .listColumns) → app.answer request b = .ok response after →
      response.isSuccess = true →
      ∃ columns, Web.Lists engine columns response ∧ ∀ chosen ⊆ columns, ∀ fields : Json.Fields,
        fields.lookup "columns" = some (.array (chosen.map Column.toJson)) → Web.Takes fields chosen := by
  refine ⟨fun described name type hname htype => ?_, fun d row c hrow => ?_, ?_⟩
  · exact ⟨_, Column.ofJson_object hname htype, Column.ofJson_toJson rfl rfl, _, rfl, Column.keeps_ofFields hname htype⟩
  · exact ⟨(named_of_row hrow).comes_back, _, rfl, c.lookup_written⟩
  · intro app request engine b after response hroute hanswer hsuccess
    have hends := app.answer_lists hroute b
    rw [Web.Serving.Ends, hanswer] at hends
    obtain ⟨columns, hlists⟩ := hends response rfl hsuccess
    obtain ⟨d, rows, -, hrows⟩ := hlists.rows
    have hnamed : ∀ c ∈ columns, c.Named := by
      intro c hc
      obtain ⟨row, -, hrow⟩ := exists_row_of_mem hrows hc
      exact named_of_row hrow
    refine ⟨columns, hlists, ?_⟩
    intro chosen hchosen fields hlisted
    exact Web.takes_of_listed (fun c hc => hnamed c (hchosen hc)) hlisted

/-- A description of a column with a comment that is empty, a flag that is false and a default that is zero. -/
def faintDescription : Json.Fields :=
  [("name", .string "a"), ("type", .string "INT"), ("comment", .string ""), ("nullable", .bool false),
    ("default_value", .int 0), ("ttl_expr", .null)]

/-- A row of a column without a comment and with the default zero. -/
def faintRow : Row := ⟨[.string "a", .string "int", .null, .string "NO", .string "0"], true⟩

/-- The column of that row as it is listed. -/
def faintColumn : Json :=
  .object [("name", .string "a"), ("type", .string "int"), ("nullable", .bool false), ("default_value", .string "0"),
    ("partition", .bool false)]

/-- A request with the token to list the columns of a table. -/
def listingRequest : Web.Request where
  method := "POST"
  path := "/api/sinks/mysql/columns/list"
  params := []
  headers := [("Authorization", "Bearer secret"), ("Content-Type", "application/json")]
  body := Text.Utf8.encode ((Json.object [("url", .string "jdbc:mysql://h:3306"), ("username", .string "u"),
    ("database", .string "db"), ("table", .string "t")]).render .compact).toList

/-- Backends with a server that answers every query with rows. -/
def answering (rows : List Row) : Web.Backends Script :=
  ⟨.fresh { Script.empty with rules := [⟨"", [], none, .rows rows⟩] }, ⟨[], [], []⟩⟩

/-- What is there is kept though it counts as absent, and what is listed of a column without a comment has none. -/
theorem columns_return_faint :
    (∃ c, Column.ofJson (.object faintDescription) = .ok c ∧ Column.ofJson c.toJson = .ok c ∧
      ∃ written, c.toJson = .object written ∧ Column.Keeps faintDescription written) ∧
    (∃ c, Dialect.mysql.columnOfRow faintRow = .ok (some c) ∧ Column.ofJson c.toJson = .ok c) ∧
    ∃ response after columns, tokenApp.answer listingRequest (answering [faintRow]) = .ok response after ∧
      response.isSuccess = true ∧ Web.Lists "mysql" columns response ∧ columns.map Column.toJson = [faintColumn] ∧
      Web.Takes [("table", .string "t"), ("columns", .array [faintColumn])] columns := by
  obtain ⟨hdescribed, hrow, hlisted⟩ := columns_return (σ := Script)
  refine ⟨hdescribed faintDescription "a" "INT" rfl rfl, ⟨_, rfl, (hrow .mysql faintRow _ rfl).1⟩, ?_⟩
  have hfound : Web.endpoint? listingRequest.path = some (.sink "mysql" .listColumns) := by decide +kernel
  have hchecked : (match tokenApp.answer listingRequest (answering [faintRow]) with
      | .ok response _ => response.isSuccess && decide (response.columns? = some [faintColumn])
      | .error .. => false) = true := by decide +kernel
  cases hanswer : tokenApp.answer listingRequest (answering [faintRow]) with
  | error e after => simp [hanswer] at hchecked
  | ok response after =>
      rw [hanswer] at hchecked
      obtain ⟨hsuccess, htold⟩ := Bool.and_eq_true_iff.mp hchecked
      obtain ⟨columns, hlists, htakes⟩ :=
        hlisted tokenApp listingRequest "mysql" _ after response (Web.route_eq_ok hfound rfl) hanswer hsuccess
      have hcolumns : columns.map Column.toJson = [faintColumn] :=
        Option.some.inj (hlists.told.symm.trans (of_decide_eq_true htold))
      refine ⟨response, after, columns, rfl, hsuccess, hlists, hcolumns, htakes columns (List.Subset.refl _) _ ?_⟩
      rw [hcolumns]
      rfl

end SinkKeeper
