import SinkKeeper.Proofs.Executions
import SinkKeeper.Reconcile

/-!
# How operations run

Every operation runs as its steps do. What it refuses it refuses before a statement is sent, but for one case: the
database of a table may have been made by then.
-/

namespace SinkKeeper

open SinkKeeper.Sql

variable {σ α : Type} [Server σ] {d : Dialect} {s : σ} {link link' : Link σ} {new more : List Event} {database table : Json}
  {t : Table} {loose : Prop} {R : List Event → Prop}

/-! ## Servers with regular rows -/

/-- The rows that a server answers with have the cells that are read of them. -/
structure Server.Tabular (d : Dialect) (s : σ) : Prop where
  headed : ∀ calls sql params rows, (Server.respond (Server.after s calls) (.query sql params)).1 = .rows rows →
    ∀ row ∈ rows, ∃ cell, row.cell 0 = .ok cell
  described : ∀ calls database table sql rows, d.describeTable database table = .ok sql →
    (Server.respond (Server.after s calls) (.query sql [])).1 = .rows rows →
      ∀ row ∈ rows, ∃ name, row.Names d.describedCells name

theorem Server.Tabular.later (h : Server.Tabular d link.server) (hx : link.Extends new link') :
    Server.Tabular d link'.server := by
  rw [hx.server]
  constructor
  · intro calls sql params rows ha
    rw [← Server.after_append] at ha
    exact h.headed _ sql params rows ha
  · intro calls database table sql rows hsql ha
    rw [← Server.after_append] at ha
    exact h.described _ database table sql rows hsql ha

theorem Script.tabular {s : Script} (h : ∀ rule ∈ s.rules, ∀ rows, rule.answer = .rows rows →
    ∀ row ∈ rows, ∃ name, row.Names d.describedCells name) : Server.Tabular d s := by
  have hrows : ∀ calls sql params rows, (Server.respond (Server.after s calls) (.query sql params)).1 = .rows rows →
      ∀ row ∈ rows, ∃ name, row.Names d.describedCells name := by
    intro calls sql params rows ha
    obtain ⟨hrules, -⟩ := s.after_keeps calls
    generalize Server.after s calls = s' at ha hrules
    simp only [Server.respond, Script.respond] at ha
    split at ha
    · cases ha
    · simp only [Script.answerQuery] at ha
      generalize hfind : List.find? _ _ = found at ha
      cases found with
      | none =>
          cases ha
          exact List.forall_mem_nil _
      | some rule => exact h rule (hrules ▸ List.mem_of_find?_eq_some hfind) rows ha
  refine ⟨fun calls sql params rows ha row hr => ?_, fun calls _ _ sql rows _ ha => hrows calls sql [] rows ha⟩
  obtain ⟨name, hn⟩ := hrows calls sql params rows ha row hr
  exact ⟨_, hn.cell_zero⟩

/-! ## Names that are fit -/

theorem describeTable_ok (hd : ∃ name, checkName "database" database = .ok name)
    (ht : ∃ name, checkName "table" table = .ok name) : ∃ sql, d.describeTable database table = .ok sql := by
  obtain ⟨home, hhome⟩ := hd
  obtain ⟨name, hname⟩ := ht
  have hq : quoteTable database table = .ok (quoted home ++ "." ++ quoted name) :=
    quoteTable_eq_ok.mpr ⟨home, checkName_eq_ok.mp hhome, name, checkName_eq_ok.mp hname, rfl⟩
  cases d with
  | mysql => exact ⟨_, by rw [Dialect.describeTable, Mysql.describeTable, hq]; rfl⟩
  | hive => exact ⟨_, by rw [Dialect.describeTable, Hive.describeTable, hq]; rfl⟩
  | clickhouse => exact ⟨_, by rw [Dialect.describeTable, Clickhouse.describeTable, hq]; rfl⟩

theorem createDatabase_ok (h : ∃ name, checkName "database" database = .ok name) :
    ∃ sql, d.createDatabase database = .ok sql := by
  obtain ⟨name, hname⟩ := h
  have hq : quoteName "database" database = .ok (quoted name) :=
    quoteName_eq_ok.mpr ⟨name, checkName_eq_ok.mp hname, rfl⟩
  exact ⟨_, by rw [Dialect.createDatabase, hq]; rfl⟩

namespace Task

/-! ## Existence -/

/-- What is refused is refused while nothing but queries was made. -/
def Early (R : List Event → Prop) : Prop := ∀ new, Asks new → R new

theorem Asks.nil : Asks [] := List.forall_mem_nil _

theorem Asks.query (sql : String) (params : Json.Fields) (outcome : Outcome) : Asks [⟨.query sql params, outcome⟩] :=
  List.forall_mem_singleton.mpr ⟨sql, params, rfl⟩

theorem Asks.append (h : Asks new) (hm : Asks more) : Asks (new ++ more) := List.forall_mem_append.mpr ⟨h, hm⟩

theorem Early.after (h : Early R) (hs : Asks new) : Early fun more => R (new ++ more) := fun _ hm => h _ (hs.append hm)

/-- The call that asks for a database. -/
def asking (d : Dialect) (database : Json) : Call :=
  .query (d.databaseExists database).sql (d.databaseExists database).params

theorem rowsContain_fails {rows : List Row} {name : Json} (hs : loose ∨ ∀ row ∈ rows, ∃ cell, row.cell 0 = .ok cell)
    {kind : String} (hn : ∃ s, checkName kind name = .ok s) : Fails (fun _ => loose) (d.rowsContain rows name) := by
  obtain hl | hcells := hs
  · exact fun _ _ => hl
  · obtain ⟨s, hname⟩ := hn
    rw [(checkName_eq_ok.mp hname).1]
    obtain ⟨found, hf⟩ := rowsContain_ok hcells
    exact .of_eq_ok hf

theorem columnsOfRows_fails {rows : List Row}
    (hs : loose ∨ ∀ row ∈ rows, ∃ name, row.Names d.describedCells name) :
    Fails (fun _ => loose) (d.columnsOfRows rows) := by
  obtain hl | hrows := hs
  · exact fun _ _ => hl
  · obtain ⟨columns, hc⟩ := columnsOfRows_ok hrows
    exact .of_eq_ok hc

theorem databaseExists_runs (hs : loose ∨ Server.Tabular d link.server) (hr : R []) :
    Runs d loose (databaseExists d database) link R fun found new => new = [⟨asking d database, .done⟩] ∧
      (∃ name, checkName "database" database = .ok name) ∧
      ∃ rows, (Server.respond link.server (asking d database)).1 = .rows rows ∧
        d.rowsContain rows database = .ok found := by
  refine .checkSink (checkName_fails _ _) hr ?_
  intro name hname
  refine (fetch_runs _ _ link).bind ?_
  rintro rows new link' hx ⟨rfl, ha⟩
  refine .checkShape (rowsContain_fails (hs.imp_right fun h => h.headed [] _ _ rows ha) ⟨name, hname⟩) ?_
  intro found hf
  refine .afterNote fun _ _ => .pure ?_
  exact ⟨rfl, ⟨name, hname⟩, rows, ha, hf⟩

theorem tableExists_runs (hs : loose ∨ Server.Tabular d link.server) (hr : R []) :
    Runs d loose (tableExists d database table) link R fun _ new => Asks new ∧
      ∃ sql, d.describeTable database table = .ok sql := by
  refine .checkSink (checkName_fails _ _) hr ?_
  intro home hhome
  refine .checkSink (checkName_fails _ _) hr ?_
  intro name hname
  refine .check ((tableExists_fails _ _).rejecting hr) ?_
  intro query _
  refine (fetch_runs _ _ link).bind ?_
  rintro rows new link' hx ⟨rfl, ha⟩
  refine .checkShape (rowsContain_fails (hs.imp_right fun h => h.headed [] _ _ rows ha) ⟨name, hname⟩) ?_
  intro found _
  refine .afterNote fun _ _ => .pure ?_
  exact ⟨.query _ _ _, describeTable_ok ⟨home, hhome⟩ ⟨name, hname⟩⟩

/-! ## Columns -/

theorem columns_runs (hs : loose ∨ Server.Tabular d link.server)
    (hr : R [] ∨ ∃ sql, d.describeTable database table = .ok sql) :
    Runs d loose (columns d database table) link R fun _ new => Asks new := by
  have hdescribe : Fails (Refusal loose (R [])) (d.describeTable database table) := by
    obtain hr | ⟨sql, hsql⟩ := hr
    · exact (describeTable_fails _ _).rejecting hr
    · exact .of_eq_ok hsql
  refine .check hdescribe ?_
  intro sql hsql
  refine (fetch_runs _ _ link).bind ?_
  rintro rows new link' hx ⟨rfl, ha⟩
  have hrows := hs.imp_right fun h => h.described [] _ _ sql rows hsql ha
  rw [← bind_pure (liftM (d.columnsOfRows rows))]
  refine .checkShape (columnsOfRows_fails hrows) ?_
  intro columns _
  exact .pure (.query _ _ _)

theorem columnExists_runs {column : Json} (hs : loose ∨ Server.Tabular d link.server) (hr : R []) :
    Runs d loose (columnExists d database table column) link R fun _ new => Asks new := by
  refine .checkSink (checkName_fails _ _) hr ?_
  intro name _
  split
  · refine (fetch_runs _ _ link).bind ?_
    rintro rows new link' - ⟨rfl, -⟩
    rw [pure_bind]
    exact .afterNote fun _ _ => .pure (.query _ _ _)
  · refine (columns_runs hs (.inl hr)).bind ?_
    intro there new link' _ hasks
    rw [pure_bind]
    refine .afterNote fun _ _ => .pure ?_
    rw [List.append_nil]
    exact hasks

theorem missingOf_runs {columns : List Column} (hs : loose ∨ Server.Tabular d link.server) (hr : Early R) :
    Runs d loose (missingOf d t columns) link R fun missing new => Asks new ∧ missing ⊆ columns := by
  induction columns generalizing link R with
  | nil => exact .pure ⟨.nil, List.Subset.refl _⟩
  | cons column columns ih =>
      refine (columnExists_runs hs (hr [] .nil)).bind ?_
      intro found new link' hx hasks
      refine (ih (hs.imp_right (·.later hx)) (hr.after hasks)).bind ?_
      rintro missing more link'' - ⟨hmore, hsub⟩
      refine .pure ⟨by rw [List.append_nil]; exact hasks.append hmore, ?_⟩
      split
      · exact List.subset_cons_of_subset _ hsub
      · exact List.cons_subset_cons _ hsub

/-- The rows of a listing are read one by one, without another call. -/
theorem names_runs {rows : List Row} (hs : loose ∨ ∀ row ∈ rows, ∃ cell, row.cell 0 = .ok cell) :
    Runs d loose (rows.mapM fun row => (liftM ((row.cell 0).map Json.text) : Task σ String)) link R
      fun _ new => new = [] := by
  induction rows generalizing link R with
  | nil => exact .pure rfl
  | cons row rows ih =>
      have hcell : Fails (fun _ => loose) ((row.cell 0).map Json.text) := by
        obtain hl | hcells := hs
        · exact fun _ _ => hl
        · obtain ⟨cell, hc⟩ := hcells row List.mem_cons_self
          exact .map (.of_eq_ok hc)
      rw [List.mapM_cons]
      refine .checkShape hcell ?_
      intro name _
      refine (ih (hs.imp_right fun h row hr => h row (List.mem_cons_of_mem _ hr))).bind ?_
      rintro names new link' - rfl
      exact .pure rfl

theorem tables_runs (hs : loose ∨ Server.Tabular d link.server) (hr : R []) :
    Runs d loose (tables d database) link R fun _ new => Asks new := by
  refine .checkSink (checkName_fails _ _) hr ?_
  intro name _
  refine .check ((listTables_fails _).rejecting hr) ?_
  intro query _
  refine (fetch_runs _ _ link).bind ?_
  rintro rows new link' hx ⟨rfl, ha⟩
  refine (names_runs (hs.imp_right fun h => h.headed [] _ _ rows ha)).bind ?_
  rintro names more link'' - rfl
  exact .pure (.query _ _ _)

/-! ## Steps of reconciling -/

/-- A report of success that tells the statements which were sent. -/
def Tallies (report : Report) (new : List Event) : Prop := report.failure = none ∧ Sends report.executed new

/-- The first call asked for a database, and the answer was that it is not there. -/
def Misses (d : Dialect) (s : σ) (database : Json) (new : List Event) : Prop :=
  new.head? = some ⟨asking d database, .done⟩ ∧
    ∃ rows, (Server.respond s (asking d database)).1 = .rows rows ∧ d.rowsContain rows database = .ok false

/-- Nothing was sent but what makes a missing database. -/
def Prepares (d : Dialect) (s : σ) (database : Json) (new : List Event) : Prop :=
  (Misses d s database new ∧ ∃ sql, d.createDatabase database = .ok sql ∧ sent new = [(sql, .done)]) ∨
    (¬Misses d s database new ∧ sent new = [])

theorem Misses.append_iff (hne : new ≠ []) : Misses d s database (new ++ more) ↔ Misses d s database new := by
  rw [Misses, List.head?_append_of_ne_nil _ hne]
  rfl

theorem Prepares.append (h : Prepares d s database new) (hne : new ≠ []) (hm : sent more = []) :
    Prepares d s database (new ++ more) := by
  rw [Prepares, Misses.append_iff hne, sent_append, hm, List.append_nil]
  exact h

theorem Prepares.nil : Prepares d s database [] := .inr ⟨fun h => (nomatch h.1), rfl⟩

theorem createDatabase_runs (hs : loose ∨ Server.Tabular d link.server) (hr : R []) :
    Runs d loose (createDatabase d database) link R fun report new =>
      Tallies report new ∧ new ≠ [] ∧ Prepares d link.server database new := by
  refine (databaseExists_runs hs hr).bind ?_
  rintro found new link' hx ⟨rfl, hname, rows, ha, hf⟩
  split
  · rename_i hfound
    refine .afterNote fun _ _ => .pure ⟨⟨rfl, rfl⟩, List.cons_ne_nil _ _, .inr ⟨?_, rfl⟩⟩
    rintro ⟨-, rows', ha', hf'⟩
    cases ha.symm.trans ha'
    cases hfound ▸ hf.symm.trans hf'
  · rename_i hfound
    obtain ⟨sql, hsql⟩ := createDatabase_ok (d := d) hname
    refine .check (.of_eq_ok hsql) ?_
    intro sql' hsql'
    cases hsql.symm.trans hsql'
    refine (execute_runs sql link').bind ?_
    intro _ more link'' _ hsent
    refine .afterNote fun _ _ => .pure ⟨⟨rfl, ?_⟩, List.cons_ne_nil _ _, .inl ⟨⟨rfl, rows, ha, ?_⟩, sql, hsql, ?_⟩⟩
    · rw [List.append_nil]
      exact hsent
    · rw [hf, Bool.eq_false_iff.mpr hfound]
    · rw [List.append_nil]
      exact hsent

theorem reported_runs (hs : loose ∨ Server.Tabular d link.server)
    (hd : ∃ sql, d.describeTable database table = .ok sql) (executed : List String) :
    Runs d loose (do
        let columns ← columns d database table
        return { Report.done with columns, executed }) link R fun report new =>
      report.failure = none ∧ report.executed = executed ∧ sent new = [] := by
  refine (columns_runs hs (.inr hd)).bind ?_
  intro columns new link' _ hasks
  refine .pure ⟨rfl, rfl, ?_⟩
  rw [List.append_nil]
  exact sent_of_asks hasks

theorem createTable_runs (ht : loose ∨ t.Typed) (hs : loose ∨ Server.Tabular d link.server) (hr : Early R) :
    Runs d loose (createTable d t) link R fun report new =>
      Tallies report new ∧ (∃ sql, d.describeTable t.database t.name = .ok sql) ∧
        (report.executed = [] ∨ ∃ sql, d.createTable t = .ok sql ∧ report.executed = [sql]) := by
  refine (tableExists_runs hs (hr [] .nil)).bind ?_
  rintro found new link₁ hx ⟨hasks, hd⟩
  have hasked := sent_of_asks hasks
  have hs₁ := hs.imp_right (·.later hx)
  split
  · refine .afterNote fun link₂ hx' => ?_
    refine (reported_runs (hs₁.imp_right (·.later hx')) hd []).mono ?_
    rintro report more ⟨hok, hexecuted, hsent⟩
    refine ⟨⟨hok, ?_⟩, hd, .inl hexecuted⟩
    rw [hexecuted, Sends, sent_append, hasked, hsent]
    rfl
  · refine .check ((createTable_fails ht).rejecting (hr _ (by rw [List.append_nil]; exact hasks))) ?_
    intro sql hsql
    refine (execute_runs sql link₁).bind ?_
    intro _ more link₂ hx' hsent
    refine .afterNote fun link₃ hx'' => ?_
    refine (reported_runs ((hs₁.imp_right (·.later hx')).imp_right (·.later hx'')) hd [sql]).mono ?_
    rintro report last ⟨hok, hexecuted, hlast⟩
    refine ⟨⟨hok, ?_⟩, hd, .inr ⟨sql, hsql, hexecuted⟩⟩
    rw [hexecuted, Sends, sent_append, sent_append, hasked, hsent, hlast]
    rfl

theorem addColumns_runs (ht : loose ∨ t.Typed) (hs : loose ∨ Server.Tabular d link.server) (hr : Early R) :
    Runs d loose (addColumns d t) link R Tallies := by
  refine (missingOf_runs hs hr).bind ?_
  rintro missing new link₁ hx ⟨hasks, hsub⟩
  have hasked := sent_of_asks hasks
  split
  · refine .afterNote fun _ _ => .pure ⟨rfl, ?_⟩
    rw [List.append_nil]
    exact hasked
  · have htext := ht.imp_right fun h column hc => h.defaultKind column (hsub hc)
    refine .check ((addColumns_fails htext).rejecting (hr _ (by rw [List.append_nil]; exact hasks))) ?_
    intro statements _
    refine (executeBatch_runs statements _ link₁).bind ?_
    intro _ more link₂ _ hsent
    refine .afterNote fun _ _ => .pure ⟨rfl, ?_⟩
    rw [List.append_nil, Sends, sent_append, hasked, hsent]
    rfl

theorem ensureTable_runs (ht : loose ∨ t.Typed) (hs : loose ∨ Server.Tabular d link.server) :
    Runs d loose (ensureTable d t) link (Prepares d link.server t.database) Tallies := by
  refine (createDatabase_runs hs .nil).bind ?_
  rintro home new link₁ hx ⟨⟨-, hhome⟩, hne, hprepares⟩
  have hs₁ := hs.imp_right (·.later hx)
  -- What was told of the database stands from here on, so a rejection leaves just what its stage has sent.
  have hkeeps : ∀ more, sent more = [] → Prepares d link.server t.database (new ++ more) :=
    fun more hm => hprepares.append hne hm
  refine (createTable_runs ht hs₁ fun more hm => hkeeps more (sent_of_asks hm)).bind ?_
  rintro table more link₂ hx' ⟨⟨-, hmade⟩, hd, -⟩
  have hs₂ := hs₁.imp_right (·.later hx')
  split
  · -- The table was there, so nothing has been sent for it and the columns may still be refused.
    rename_i hnone
    rw [List.isEmpty_iff.mp hnone] at hmade
    have hstays : Early fun most => Prepares d link.server t.database (new ++ (more ++ most)) := by
      intro most hasks
      exact hkeeps _ (hmade.append (.of_asks hasks))
    refine (addColumns_runs ht hs₂ hstays).bind ?_
    rintro added most link₃ hx'' ⟨-, hadded⟩
    refine (reported_runs (hs₂.imp_right (·.later hx'')) hd _).mono ?_
    rintro report last ⟨hok, hexecuted, hlast⟩
    refine ⟨hok, ?_⟩
    rw [hexecuted, List.isEmpty_iff.mp hnone, List.append_nil, ← List.append_nil added.executed]
    exact hhome.append (hmade.append (hadded.append hlast))
  · refine (reported_runs hs₂ hd _).mono ?_
    rintro report last ⟨hok, hexecuted, hlast⟩
    refine ⟨hok, ?_⟩
    rw [hexecuted, Sends, sent_append, sent_append, hhome, hmade, hlast, List.append_nil, List.append_nil,
      List.map_append]

end Task

/-! ## Operations -/

/-- The table of an operation, if it is for one, has the options it should have. -/
def Operation.Typed : Operation → Prop
  | .createTable t | .addColumns t | .ensureTable t => t.Typed
  | .createDatabase _ | .listTables _ | .listColumns .. => True

/-- What has been sent when an operation refuses something. -/
def Operation.Leaves (d : Dialect) (s : σ) (new : List Event) : Operation → Prop
  | .ensureTable t => Task.Prepares d s t.database new
  | _ => Task.sent new = []

/-- An operation that does not ensure a table refuses what it refuses while it asks. -/
theorem Operation.run_early {op : Operation} (hop : ∀ t, op ≠ .ensureTable t) (ht : loose ∨ op.Typed)
    (hs : loose ∨ Server.Tabular d link.server) (hr : Task.Early R) : Task.Runs d loose (op.run d) link R Task.Tallies := by
  cases op with
  | createDatabase database => exact (Task.createDatabase_runs hs (hr [] .nil)).mono fun _ _ h => h.1
  | createTable t => exact (Task.createTable_runs ht hs hr).mono fun _ _ h => h.1
  | addColumns t => exact Task.addColumns_runs ht hs hr
  | ensureTable t => exact absurd rfl (hop t)
  | listTables database =>
      refine (Task.tables_runs hs (hr [] .nil)).bind ?_
      intro tables new link' _ hasks
      refine .pure ⟨rfl, ?_⟩
      rw [List.append_nil]
      exact .of_asks hasks
  | listColumns database table =>
      refine (Task.columns_runs hs (.inl (hr [] .nil))).bind ?_
      intro columns new link' _ hasks
      refine .pure ⟨rfl, ?_⟩
      rw [List.append_nil]
      exact .of_asks hasks

theorem Operation.run_runs (op : Operation) (ht : loose ∨ op.Typed) (hs : loose ∨ Server.Tabular d link.server) :
    Task.Runs d loose (op.run d) link (op.Leaves d link.server) Task.Tallies := by
  cases op with
  | ensureTable t => exact Task.ensureTable_runs ht hs
  | _ => exact run_early (fun _ h => nomatch h) ht hs fun _ => Task.sent_of_asks

end SinkKeeper
