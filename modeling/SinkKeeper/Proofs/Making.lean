import SinkKeeper.Proofs.BadAddresses
import SinkKeeper.Proofs.Observations
import SinkKeeper.Proofs.Services
import SinkKeeper.Proofs.Wording

/-!
# Making tables on request

A request to make a table is answered, whatever its body and its description hold, but for a few cases that are named
here. Most of them are of the description's making: a number in it that is infinite or none, or a half of a pair, where
the body is complained of and would be shown; a half that the report would show; an infinite lifetime; and an option
that does not fit. The others are faults of the server, rows that are not as an engine gives them, and a port of more
digits than are read.
-/

namespace SinkKeeper

variable {σ α β : Type} [Server σ]

/-! ## How work may end -/

/-- An error of the sink, a fault, or a complaint about a shape as `P` tells. -/
inductive Failure.Within (P : ShapeError → Prop) : Failure → Prop
  | sink {e : SinkError} : Within P (.sink e)
  | fault {f : Fault} : Within P (.fault f)
  | shape {e : ShapeError} (h : P e) : Within P (.shape e)

theorem Fails.of_refusal {P : ShapeError → Prop} {x : Except Failure α} (h : Fails (Refusal False True) x) :
    Fails (Failure.Within P) x := by
  refine h.imp fun e he => ?_
  cases he with
  | invalid _ _ => exact .sink
  | shape hfalse => exact hfalse.elim

namespace Task

/-- Work that gives a result as `Q` tells, or fails and complains of no shape but as `P` tells. -/
def Yields (P : ShapeError → Prop) (work : Task σ α) (Q : α → Prop) : Prop :=
  ∀ link, Ends work link fun _ r _ =>
    match r with
    | .ok a => Q a
    | .error e => e.Within P

variable {P : ShapeError → Prop} {work : Task σ α} {Q : α → Prop}

theorem Yields.pure {a : α} (h : Q a) : Yields P (pure a : Task σ α) Q := fun _ => .pure h

theorem Yields.throw {e : Failure} (h : e.Within P) : Yields P (throw e : Task σ α) Q := fun _ => .throw h

theorem Yields.bind {next : α → Task σ β} {Q' : β → Prop} (h : Yields P work Q)
    (hnext : ∀ a, Q a → Yields P (next a) Q') : Yields P (work >>= next) Q' := by
  refine fun link => .bind ((h link).mono fun new r link' _ hr => ?_)
  cases r with
  | ok a => exact hnext a hr link'
  | error e => exact hr

theorem Yields.lift {x : Except Failure α} (h : Fails (Failure.Within P) x) :
    Yields P (liftM x : Task σ α) fun a => x = .ok a := by
  cases x with
  | ok a => exact .pure rfl
  | error e => exact .throw (h e rfl)

theorem Yields.liftSink {x : Except SinkError α} : Yields P (liftM x : Task σ α) fun a => x = .ok a := by
  cases x with
  | ok a => exact .pure rfl
  | error e => exact .throw .sink

theorem Yields.liftShape {x : Except ShapeError α} (h : Comes P Q x) : Yields P (liftM x : Task σ α) Q := by
  cases x with
  | ok a => exact .pure (h.2 a rfl)
  | error e => exact .throw (.shape (h.1 e rfl))

theorem Yields.note {level : Level} {text : String} : Yields P (note level text : Task σ Unit) fun _ => True :=
  fun _ => .note fun _ _ => trivial

theorem Yields.call {c : Call} : Yields P (call c : Task σ (List Row)) fun _ => True :=
  fun _ => .call (fun _ _ _ _ => trivial) fun _ _ _ _ _ _ => .fault

theorem Yields.perform {c : Call} : Yields P (perform c : Task σ Unit) fun _ => True :=
  Yields.call.bind fun _ _ => .pure trivial

theorem Yields.onFault {kinds : FaultKind → Bool} {handle : Fault → Task σ α} (h : Yields P work Q)
    (hhandle : ∀ f, Yields P (handle f) Q) : Yields P (onFault kinds work handle) Q := by
  refine fun link => .onFault ((h link).mono fun new r link' _ hr => ⟨fun f _ _ => hhandle f link', fun _ => ?_⟩)
  exact hr

/-! ## Making a table -/

variable {d : Dialect} {t : Table} {database table : Json}

theorem fetch_yields (sql : String) (params : Json.Fields) :
    Yields P (fetch d sql params : Task σ (List Row)) fun _ => True :=
  Yields.call.onFault fun _ => .throw .sink

theorem execute_yields (sql : String) : Yields P (execute sql : Task σ Unit) fun _ => True := by
  have hback : Yields P (rollbackQuietly : Task σ Unit) fun _ => True := Yields.perform.onFault fun _ => .note
  have hrun : Yields P (runAndCommit sql none : Task σ Unit) fun _ => True :=
    (Yields.perform.bind fun _ _ => .perform).onFault fun _ => hback.bind fun _ _ => .throw .sink
  exact hrun.bind fun _ _ => .note

theorem tableExists_yields (hrow : ∀ x, Row.Complaint x → P x) :
    Yields P (tableExists d database table : Task σ Bool) fun _ => True := by
  have hquery : Fails (Failure.Within P) (d.tableExists database table) := .of_refusal (tableExists_fails _ _)
  refine Yields.liftSink.bind fun _ _ => Yields.liftSink.bind fun name hname => ?_
  obtain ⟨rfl, -⟩ := Sql.checkName_eq_ok.mp hname
  refine (Yields.lift hquery).bind fun query _ => (fetch_yields _ _).bind fun rows _ => ?_
  have hfound : Comes P (fun _ => True) (d.rowsContain rows (.string name)) :=
    ⟨(rowsContain_complains name).imp hrow, fun _ _ => trivial⟩
  exact (Yields.liftShape hfound).bind fun _ _ => Yields.note.bind fun _ _ => .pure trivial

theorem columns_yields (hrow : ∀ x, Row.Complaint x → P x) :
    Yields P (columns d database table : Task σ (List Column)) fun columns => ∀ c ∈ columns, c.Observed := by
  have hdescribe : Fails (Failure.Within P) (d.describeTable database table) := .of_refusal (describeTable_fails _ _)
  refine (Yields.lift hdescribe).bind fun sql _ => (fetch_yields _ _).bind fun rows _ => .liftShape ?_
  exact ⟨columnsOfRows_comes.1.imp hrow, columnsOfRows_comes.2⟩

theorem createTable_yields (d : Dialect) (t : Table) :
    Yields (fun x => Row.Complaint x ∨ t.Misfit d x) (createTable d t : Task σ Report) fun report =>
      ∀ c ∈ report.columns, c.Observed := by
  have hrow : ∀ x, Row.Complaint x → Row.Complaint x ∨ t.Misfit d x := fun _ => .inl
  have hsql : Fails (Failure.Within fun x => Row.Complaint x ∨ t.Misfit d x) (d.createTable t) := by
    refine (createTable_unbuilt d t).imp fun e he => ?_
    cases he with
    | refused _ => exact .sink
    | misfit h => exact .shape (.inr h)
  have hend {executed : List String} : Yields (fun x => Row.Complaint x ∨ t.Misfit d x)
      (pure executed : Task σ (List String)) fun _ => True := .pure trivial
  refine (tableExists_yields hrow).bind fun found _ => ?_
  dsimp only
  split
  · exact Yields.note.bind fun _ _ => hend.bind fun _ _ => (columns_yields hrow).bind fun _ hcolumns => .pure hcolumns
  · exact (Yields.lift hsql).bind fun _ _ => (execute_yields _).bind fun _ _ => Yields.note.bind fun _ _ =>
      hend.bind fun _ _ => (columns_yields hrow).bind fun _ hcolumns => .pure hcolumns

end Task

/-! ## Sinks -/

namespace Sink

variable {s : Sink} {t : Table} {r : Except Failure Report}

/-- How a sink may break at making a table: the port of its address has too many digits, or its server or the table has
it so. -/
inductive Breaks (s : Sink) (t : Table) : Failure → Prop
  | port {digits : Nat} (h : Address.Overlong s.dialect.scheme (Text.strip s.url).toList) :
      Breaks s t (.shape (.numeralTooLong digits))
  | fault {f : Fault} : Breaks s t (.fault f)
  | row {x : ShapeError} (h : Row.Complaint x) : Breaks s t (.shape x)
  | misfit {x : ShapeError} (h : t.Misfit s.dialect x) : Breaks s t (.shape x)

/-- What comes of making a table before it is reported. -/
def Makes (s : Sink) (t : Table) : Except Failure Report → Prop
  | .ok report => ∀ c ∈ report.columns, c.Observed
  | .error e => (∃ x, e = .sink x) ∨ s.Breaks t e

/-- What comes of making a table. -/
def Reports (s : Sink) (t : Table) : Except Failure Report → Prop
  | .ok report => ∀ c ∈ report.columns, c.Observed
  | .error e => s.Breaks t e

theorem Makes.reports (h : s.Makes t r) : s.Reports t (Task.reported r) := by
  cases r with
  | ok report => exact h
  | error e =>
      cases e with
      | sink x => exact List.forall_mem_nil _
      | _ => exact h.resolve_left fun ⟨_, hx⟩ => nomatch hx

theorem makes_sink (x : SinkError) : s.Makes t (.error (.sink x)) := .inl ⟨x, rfl⟩

theorem Makes.finished (h : s.Makes t r) (raised : Option Fault) : s.Makes t (Task.finished r raised) := by
  cases raised with
  | none => exact h
  | some f => exact .inr .fault

theorem makes_of_address {e : Failure} (h : s.address = .error e) : s.Makes t (.error e) := by
  cases s.address_fails e h with
  | invalid _ => exact makes_sink _
  | tooLong =>
      refine .inr (.port ?_)
      by_contra hshort
      unfold address at h
      split at h
      · cases h
      · cases hparse : s.dialect.parseAddress (Text.strip s.url) with
        | ok a =>
            rw [hparse] at h
            cases h
        | error e =>
            rw [hparse] at h
            cases h
            obtain ⟨what, text, htold⟩ := Address.rejected_of_error hshort hparse
            cases htold

theorem run_createTable_reports (s : Sink) (env : Environment) (t : Table) (link : Link σ) :
    Task.Ends (s.run env (.createTable t)) link fun _ r _ => s.Reports t r := by
  have hwork : ∀ link' : Link σ,
      Task.Ends (Operation.run s.dialect (.createTable t)) link' fun _ r _ => s.Makes t r := by
    refine fun link' => (Task.createTable_yields s.dialect t link').mono fun _ r _ _ hr => ?_
    cases r with
    | ok report => exact hr
    | error e =>
        cases hr with
        | sink => exact makes_sink _
        | fault => exact .inr .fault
        | shape h => exact .inr (h.elim .row .misfit)
  refine .report
    ((withConnection_ends (Q := fun _ _ r => s.Makes t r) fun a options link' _ => hwork link').mono
      fun new r link' _ hsession => ?_)
  refine Makes.reports ?_
  cases hsession with
  | refused ha => exact makes_of_address ha
  | unmade =>
      unfold Sink.unmade
      split
      · exact makes_sink _
      · exact .inr .fault
  | unconnected | unusable => exact (makes_sink _).finished _
  | used _ _ hq => exact (hq.finished _).finished _

end Sink

/-! ## Requests -/

namespace Web

variable {app : App} {request : Request} {engine : String} {d : Dialect} {form fields : Json.Fields} {b : Backends σ}

theorem route_eq_ok {e : Endpoint} (hfound : endpoint? request.path = some e) (hmethod : e.method = request.method) :
    route request = .ok e := by
  rw [route, hfound]
  exact if_pos hmethod

theorem ofName_ne_error {e : ShapeError} : Dialect.ofName (.string engine) ≠ .error e := by
  intro h
  have hword : ∃ s, (Json.string engine).orElse (.string "") = .string s := Json.IsText.orElse (.inr ⟨_, rfl⟩) ""
  obtain ⟨s, hs⟩ := hword
  rw [Dialect.ofName, hs] at h
  cases h

section Served

variable [Runtime]

/-- A request describes a table for an engine: its body fits the form of such requests, and the engine is known. -/
structure Describes (request : Request) (engine : String) (d : Dialect) (form fields : Json.Fields) : Prop where
  checked : ∃ body, readBody request = .ok body ∧ checkBody SinkTask.createTable.formFields body = .ok (.ok form)
  known : Dialect.ofName (.string engine) = .ok (some d)
  table : Json.fieldOrNull form "table" = .object fields

/-- What a request describes, if it does. -/
def described? (request : Request) (engine : String) : Option (Dialect × Json.Fields × Json.Fields) :=
  match readBody request, Dialect.ofName (.string engine) with
  | .ok body, .ok (some d) =>
    match checkBody SinkTask.createTable.formFields body with
    | .ok (.ok form) =>
      match Json.fieldOrNull form "table" with
      | .object fields => some (d, form, fields)
      | _ => none
    | _ => none
  | _, _ => none

theorem describes_of_described? (h : described? request engine = some (d, form, fields)) :
    Describes request engine d form fields := by
  unfold described? at h
  split at h
  · rename_i body d' hread hknown
    split at h
    · rename_i form' hcheck
      split at h
      · rename_i fields' htable
        cases h
        exact ⟨⟨body, hread, hcheck⟩, hknown, htable⟩
      · cases h
    · cases h
  · cases h

/-- How a request to make a table may break. -/
inductive Breaks (app : App) (request : Request) (engine : String) (b : Backends σ) : Failure → Prop
  | undecoded {e : Text.Utf8.Undecodable} (hread : ∃ bytes, readBody request = .ok (.bytes bytes)) :
      Breaks app request engine b (.undecoded e)
  | unshown {body : Body} {complaints : List Complaint} (hread : readBody request = .ok body)
      (hcheck : checkBody SinkTask.createTable.formFields body = .ok (.error complaints))
      (hshown : ∃ c ∈ complaints, (publicPart c.value).isFinite = false) :
      Breaks app request engine b (.shape .unwritable)
  | halvedComplaint {body : Body} {complaints : List Complaint} (hread : readBody request = .ok body)
      (hcheck : checkBody SinkTask.createTable.formFields body = .ok (.error complaints))
      (hfinite : ∀ c ∈ complaints, (publicPart c.value).isFinite = true)
      (hhalved : ∃ c ∈ complaints, (publicPart c.value).isEncodable = false) :
      Breaks app request engine b (.shape .unencodable)
  | halvedEngine (hunknown : Dialect.ofName (.string engine) = .ok none) (hhalved : Text.isEncodable engine = false) :
      Breaks app request engine b (.shape .unencodable)
  | halvedReport {d : Dialect} {form fields : Json.Fields} {t : Table} {report : Report} {link : Link σ}
      (h : Describes request engine d form fields) (hread : Table.ofJson (.object fields) = .ok t)
      (hrun : (sinkOf d form).run app.environment (.createTable t) b.link = .ok report link)
      (hhalved : (reportResponse report).isEncodable = false) : Breaks app request engine b (.shape .unencodable)
  | endless {d : Dialect} {form fields : Json.Fields} (h : Describes request engine d form fields)
      (hendless : Json.Endless fields) : Breaks app request engine b (.shape .infiniteNumber)
  | sink {d : Dialect} {form fields : Json.Fields} {t : Table} {e : Failure}
      (h : Describes request engine d form fields) (hread : Table.ofJson (.object fields) = .ok t)
      (hsink : (sinkOf d form).Breaks t e) : Breaks app request engine b e

/-- A form that fits has an object for the table. -/
theorem table_of_checkBody {body : Body} (h : checkBody SinkTask.createTable.formFields body = .ok (.ok form)) :
    ∃ fields, Json.fieldOrNull form "table" = .object fields := by
  unfold checkBody at h
  split at h
  · cases h
  · split at h <;> cases h
  · rename_i whole
    split at h
    · rename_i hnone
      cases h
      have htable : fieldComplaints form "table" .object = [] :=
        List.flatMap_eq_nil_iff.mp hnone ("table", .object) (by decide)
      rw [Json.fieldOrNull]
      unfold fieldComplaints at htable
      split at htable <;> simp_all
    · cases h
  · cases h

/-! ## Answers that can be sent -/

theorem readBody_sent {refusal : Response} (h : readBody request = .error refusal) : refusal.sent = .ok refusal := by
  obtain rfl | ⟨offset, rfl⟩ := readBody_eq_error h
  · have hdetail : Text.Printable "There was an error parsing the body" := by decide +kernel
    exact Response.sent_of_writable rfl (isEncodable_refusal 400 hdetail.isEncodable)
  · exact Response.sent_of_writable rfl rfl

theorem gate_sent {env : Environment} {refusal : Response} (h : gate env request = some refusal) :
    refusal.sent = .ok refusal := by
  have hdetails : ∀ detail ∈ ["Unauthorized", "Server configuration error: API_AUTH_TOKEN not set"],
      Text.Printable detail := by decide +kernel
  obtain ⟨status, -, detail, hdetail, rfl⟩ := gate_eq_some h
  exact Response.sent_of_writable rfl (isEncodable_refusal status (hdetails detail hdetail).isEncodable)

theorem isEncodable_unknownEngine (h : Text.isEncodable engine = true) : (unknownEngine engine).isEncodable = true := by
  have hwords : ∀ s ∈ ["detail", "Unknown sink engine", "engine", "supported", "mysql", "hive", "clickhouse"],
      Text.Printable s := by decide +kernel
  simp only [List.forall_mem_cons] at hwords
  obtain ⟨hdetail, hunknown, hengine, hsupported, hmysql, hhive, hclickhouse, -⟩ := hwords
  simp [unknownEngine, Response.refusal, Response.isEncodable, Json.isEncodable, Json.areFieldsEncodable,
    Json.areEncodable, Dialect.all, Dialect.name, h, hdetail.isEncodable, hunknown.isEncodable, hengine.isEncodable,
    hsupported.isEncodable, hmysql.isEncodable, hhive.isEncodable, hclickhouse.isEncodable]

/-- A sender can be told of an error, whatever the description holds. -/
theorem invalidTable_sent {e : ShapeError} (h : e.Senders) : (invalidTable e).sent = .ok (invalidTable e) := by
  have hname : Text.Printable "detail" := by decide +kernel
  have hlead : Text.Printable "Invalid table description: " := by decide +kernel
  have hencodable : (invalidTable e).isEncodable = true := by
    simp [invalidTable, Response.refusal, Response.isEncodable, Json.isEncodable, Json.areFieldsEncodable,
      hname.isEncodable, (hlead.append h.printable).isEncodable]
  exact Response.sent_of_writable rfl hencodable

/-! ## What is served -/

theorem checkBody_undecoded {fields : List (String × FieldKind)} {body : Body} {e : Failure}
    (h : checkBody fields body = .error e) : ∃ bytes reason, body = .bytes bytes ∧ e = .undecoded reason := by
  unfold checkBody at h
  split at h
  · cases h
  · split at h
    · cases h
    · cases h
      exact ⟨_, _, rfl, rfl⟩
  · split at h <;> cases h
  · cases h

/-- What is served for a request: a response that is sent, or one that breaks it. -/
def Serves (app : App) (request : Request) (engine : String) (b : Backends σ) : Except Failure Response → Prop
  | .ok response => ∀ e, response.sent = .error e → Breaks app request engine b e
  | .error e => Breaks app request engine b e

theorem serves_of_sent {response : Response} (h : response.sent = .ok response) :
    Serves app request engine b (.ok response) := by
  intro e he
  cases h.symm.trans he

/-- A response with finite numbers only breaks a request by its texts. -/
theorem serves_of_finite {response : Response} (hfinite : response.isFinite = true)
    (h : response.isEncodable = false → Breaks app request engine b (.shape .unencodable)) :
    Serves app request engine b (.ok response) := by
  cases hencodable : response.isEncodable with
  | true => exact serves_of_sent (Response.sent_of_writable hfinite hencodable)
  | false =>
      intro e he
      cases (Response.sent_of_halved hfinite hencodable).symm.trans he
      exact h hencodable

theorem complaints_serve {body : Body} {complaints : List Complaint} (hbody : readBody request = .ok body)
    (hcheck : checkBody SinkTask.createTable.formFields body = .ok (.error complaints)) :
    Serves app request engine b (.ok ⟨422, .complaints complaints⟩) := by
  cases hfinite : Response.isFinite ⟨422, .complaints complaints⟩ with
  | false =>
      intro e he
      cases (Response.sent_of_endless hfinite).symm.trans he
      obtain ⟨c, hc, hshown⟩ := List.all_eq_false.mp hfinite
      exact .unshown hbody hcheck ⟨c, hc, Bool.not_eq_true _ ▸ hshown⟩
  | true =>
      refine serves_of_finite hfinite fun hhalved => ?_
      obtain ⟨c, hc, hshown⟩ := List.all_eq_false.mp hhalved
      exact .halvedComplaint hbody hcheck (List.all_eq_true.mp hfinite) ⟨c, hc, Bool.not_eq_true _ ▸ hshown⟩

theorem serveSink_createTable (h : Describes request engine d form fields) (app : App) (b : Backends σ) :
    Serving.Ends (serveSink app.environment engine .createTable form) b fun r _ =>
      Serves app request engine b r := by
  unfold serveSink
  rw [h.known]
  dsimp only
  have hasked : SinkTask.createTable.operation form = (Table.ofJson (.object fields)).map .createTable := by
    rw [← h.table]
    rfl
  rw [hasked]
  cases hread : Table.ofJson (.object fields) with
  | error e =>
      dsimp only [Except.map]
      obtain hsender | ⟨rfl, hendless⟩ := Table.ofJson_fails fields e hread
      · rw [if_pos hsender.told.1]
        exact .pure (serves_of_sent (invalidTable_sent hsender))
      · exact .throw (.endless h hendless)
  | ok t =>
      dsimp only [Except.map]
      obtain ⟨new, r, link, hrun, hextends, hr⟩ := (sinkOf d form).run_createTable_reports app.environment t b.link
      refine .bind (.onSink ⟨new, r, link, hrun, hextends, ?_⟩)
      cases r with
      | ok report => exact .pure (serves_of_finite (isFinite_report hr) (.halvedReport h hread hrun))
      | error e => exact .sink h hread hr

theorem App.serve_createTable (app : App) (request : Request) (engine : String) (b : Backends σ) :
    Serving.Ends (app.serve request (.sink engine .createTable)) b fun r _ => Serves app request engine b r := by
  unfold App.serve
  dsimp only
  cases hbody : readBody request with
  | error refusal => exact .pure (serves_of_sent (readBody_sent hbody))
  | ok body =>
      dsimp only
      cases hgate : gate app.environment request with
      | some refusal => exact .pure (serves_of_sent (gate_sent hgate))
      | none =>
          refine .bind (.lift ?_)
          cases hcheck : checkBody SinkTask.createTable.formFields body with
          | error e =>
              obtain ⟨bytes, reason, rfl, rfl⟩ := checkBody_undecoded hcheck
              exact .undecoded ⟨bytes, hbody⟩
          | ok checked =>
              cases checked with
              | error complaints => exact .pure (complaints_serve hbody hcheck)
              | ok form =>
                  obtain ⟨fields, htable⟩ := table_of_checkBody hcheck
                  cases hd : Dialect.ofName (.string engine) with
                  | error e => exact absurd hd ofName_ne_error
                  | ok known =>
                      cases known with
                      | some d => exact serveSink_createTable ⟨⟨body, hbody, hcheck⟩, hd, htable⟩ app b
                      | none =>
                          unfold serveSink
                          rw [hd]
                          refine .pure (serves_of_finite rfl fun hhalved => .halvedEngine hd ?_)
                          exact Bool.eq_false_iff.mpr fun hengine =>
                            Bool.eq_false_iff.mp hhalved (isEncodable_unknownEngine hengine)

theorem App.answer_createTable (app : App) (hroute : route request = .ok (.sink engine .createTable)) (b : Backends σ) :
    Serving.Ends (app.answer request) b fun r _ => ∀ e, r = .error e → Breaks app request engine b e := by
  unfold App.answer
  rw [hroute]
  refine .bind ((app.serve_createTable request engine b).mono fun r after hr => ?_)
  cases r with
  | error e =>
      intro e' he
      cases he
      exact hr
  | ok response => exact .lift hr

/-- A sender whose description is not read is told why. -/
theorem App.answer_unread (app : App) (hroute : route request = .ok (.sink engine .createTable))
    (hgate : gate app.environment request = none) (h : Describes request engine d form fields) {e : ShapeError}
    (hread : Table.ofJson (.object fields) = .error e) (hsender : e.Senders) (b : Backends σ) :
    app.answer request b = .ok (invalidTable e) b := by
  obtain ⟨body, hbody, hcheck⟩ := h.checked
  have hasked : SinkTask.createTable.operation form = .error e := by
    rw [← h.table] at hread
    exact congrArg (Except.map Operation.createTable) hread
  have hserve : app.serve request (.sink engine .createTable) b = .ok (invalidTable e) b := by
    unfold App.serve
    rw [hbody]
    dsimp only
    rw [hgate, hcheck]
    change serveSink app.environment engine .createTable form b = _
    rw [serveSink, h.known]
    dsimp only
    rw [hasked]
    dsimp only
    rw [if_pos hsender.told.1]
    rfl
  rw [App.answer, hroute]
  refine (sent_of_served hserve).trans ?_
  rw [invalidTable_sent hsender]
  rfl

end Served

end Web

/-- A description is read, or its sender can be told, or it tells an infinite lifetime. A table is written, or refused,
or has an option that does not fit. And a request to make a table breaks in the ways that are named alone; where the
description is not read for an error of the sender, it is answered with 400. -/
theorem descriptions_end [Runtime] :
    (∀ fields, Fails (fun e => Web.isSendersError e = true ∧ CommandLine.isUnreadable (.shape e) = true ∨
      e = .infiniteNumber ∧ Json.Endless fields) (Table.ofJson (.object fields))) ∧
    (∀ (d : Dialect) (t : Table),
      Fails (t.Unbuilt d) (d.createTable t) ∧ Fails (t.Unbuilt d) (d.addColumns t t.columns)) ∧
    ∀ (app : Web.App) (request : Web.Request) (engine : String) (b : Web.Backends σ),
      Web.route request = .ok (.sink engine .createTable) →
      (∀ e after, app.answer request b = .error e after → Web.Breaks app request engine b e) ∧
      ∀ d form fields e, Web.gate app.environment request = none → Web.Describes request engine d form fields →
        Table.ofJson (.object fields) = .error e → e.Senders →
          app.answer request b = .ok (Web.invalidTable e) b ∧ (Web.invalidTable e).status = 400 := by
  refine ⟨fun fields => ?_, fun d t => ⟨createTable_unbuilt d t, addColumns_unbuilt d t⟩, ?_⟩
  · exact (Table.ofJson_fails fields).imp fun e he => he.imp_left (·.told)
  · intro app request engine b hroute
    refine ⟨fun e after hbroken => ?_, fun d form fields e hgate h hread hsender => ?_⟩
    · have hends := app.answer_createTable hroute b
      rw [Web.Serving.Ends, hbroken] at hends
      exact hends e rfl
    · exact ⟨app.answer_unread hroute hgate h hread hsender b, rfl⟩

/-- A request with the token to make a table in a Hive. -/
def hiveRequest (description : Json.Fields) : Web.Request where
  method := "POST"
  path := "/api/sinks/hive/tables"
  params := []
  headers := [("Authorization", "Bearer secret"), ("Content-Type", "application/json")]
  body := Text.Utf8.encode ((Json.object [("url", .string "jdbc:hive2://h:10000"), ("username", .string "u"),
    ("table", .object description)]).render .compact).toList

/-- A table with an option, and columns of a kind. -/
def describedTable (columns : Json) (option : String) (value : Json) : Json.Fields :=
  [("database", .string "db"), ("name", .string "t"), ("columns", columns), (option, value)]

/-- A request about a table whose columns are a number. -/
def columnlessRequest : Web.Request := hiveRequest (describedTable (.int 5) "ttl" .null)

def tokenApp : Web.App := ⟨Web.tokenEnvironment, none⟩

theorem hiveRequest_route (description : Json.Fields) :
    Web.route (hiveRequest description) = .ok (.sink "hive" .createTable) := by
  have hfound : Web.endpoint? "/api/sinks/hive/tables" = some (.sink "hive" .createTable) := by decide +kernel
  exact Web.route_eq_ok hfound rfl

/-- Where the columns are a number, the sender is told. -/
theorem descriptions_end_columns :
    Web.route columnlessRequest = .ok (.sink "hive" .createTable) ∧
      Web.gate tokenApp.environment columnlessRequest = none ∧
      ∃ form fields e, Web.Describes columnlessRequest "hive" .hive form fields ∧
        Table.ofJson (.object fields) = .error e ∧ e.Senders ∧
        tokenApp.answer columnlessRequest (⟨.fresh Script.empty, ⟨[], [], []⟩⟩ : Web.Backends Script) =
          .ok (Web.invalidTable e) ⟨.fresh Script.empty, ⟨[], [], []⟩⟩ := by
  have hroute : Web.route columnlessRequest = .ok (.sink "hive" .createTable) := hiveRequest_route _
  have hgate : (Web.gate tokenApp.environment columnlessRequest).isNone = true := by decide +kernel
  have hread : (Web.described? columnlessRequest "hive").any fun p => p.1 = .hive ∧
      (match Table.ofJson (.object p.2.2) with
        | .error e => e.family == .type
        | .ok _ => false) = true := by decide +kernel
  rw [Option.isNone_iff_eq_none] at hgate
  obtain ⟨⟨d, form, fields⟩, hdescribed, htype⟩ := (Option.any_eq_true _ _).mp hread
  obtain ⟨hd, htype⟩ := of_decide_eq_true htype
  obtain ⟨-, -, hanswer⟩ := descriptions_end (σ := Script)
  cases hd
  cases hunread : Table.ofJson (.object fields) with
  | ok t => simp [hunread] at htype
  | error e =>
      have hsender : e.Senders := .inr (.inl (by simpa [hunread] using htype))
      have hdescribes := Web.describes_of_described? hdescribed
      obtain ⟨-, htold⟩ := hanswer tokenApp columnlessRequest "hive" ⟨.fresh Script.empty, ⟨[], [], []⟩⟩ hroute
      have hcall := htold .hive form fields e hgate hdescribes hunread hsender
      exact ⟨hroute, hgate, form, fields, e, hdescribes, hunread, hsender, hcall.1⟩

/-- A column with a default of a kind. -/
def defaultColumn (kind : Json) : Json :=
  .array [.object
    [("name", .string "a"), ("type", .string "INT"), ("default_kind", kind), ("default_expr", .string "1")]]

/-- What a builder makes of a description that is read. -/
def built (d : Dialect) (description : Json.Fields) : Except Failure String := do
  let t ← Table.ofJson (.object description)
  d.createTable t

/-- An infinite lifetime, and options that do not fit, end in complaints that are told to nobody: neither the builders
nor a sink make an error of the sink of them. -/
theorem descriptions_break :
    Table.ofJson (.object (describedTable (defaultColumn .null) "ttl" (.number (.real (.infinite false))))) =
        .error .infiniteNumber ∧
      built .hive (describedTable (defaultColumn .null) "field_delimiter" (.int 5)) =
        .error (.shape (.notText .whole)) ∧
      built .hive (describedTable (defaultColumn .null) "stored_as" (.bool true)) =
        .error (.shape (.noOperation .bool "upper")) ∧
      built .clickhouse (("ttl", .int 1) :: describedTable (defaultColumn .null) "ttl_unit" (.int 5)) =
        .error (.shape (.noOperation .whole "upper")) ∧
      built .clickhouse (describedTable (defaultColumn (.int 5)) "ttl" .null) =
        .error (.shape (.noOperation .whole "upper")) ∧
      ∃ t after, Table.ofJson (.object (describedTable (defaultColumn .null) "field_delimiter" (.int 5))) = .ok t ∧
        Sink.run ⟨.hive, "jdbc:hive2://h:10000", "u", none, none, none⟩ ⟨[]⟩ (.createTable t)
          (.fresh Script.empty) = .error (.shape (.notText .whole)) after :=
  ⟨rfl, rfl, rfl, rfl, rfl, _, _, rfl, rfl⟩

end SinkKeeper
