import SinkKeeper.Proofs.Lookups

/-!
# Partition columns

Which columns of a Hive table stand in which list of a statement. A statement that makes the table keeps its partition
columns apart from the others. One that adds columns lists whatever was found missing, partition columns as well.
-/

namespace SinkKeeper

open SinkKeeper.Sql

namespace Task

variable {σ α β : Type} [Server σ] {d : Dialect} {t : Table} {sql : String} {new as bs : List Event}
  {link : Link σ}

/-! ## Work that only asks -/

/-- The work makes no call but queries, however it ends. -/
def Inquires (work : Task σ α) : Prop := ∀ link, Ends work link fun new _ _ => Asks new

namespace Inquires

variable {work : Task σ α} {next : α → Task σ β}

theorem pure {a : α} : Inquires (pure a : Task σ α) := fun _ => .pure .nil

theorem throw {e : Failure} : Inquires (throw e : Task σ α) := fun _ => .throw .nil

theorem lift {x : Except Failure α} : Inquires (liftM x : Task σ α) := by
  cases x with
  | ok a => exact .pure
  | error e => exact .throw

theorem liftSink {x : Except SinkError α} : Inquires (liftM x : Task σ α) := by
  cases x with
  | ok a => exact .pure
  | error e => exact .throw

theorem liftShape {x : Except ShapeError α} : Inquires (liftM x : Task σ α) := by
  cases x with
  | ok a => exact .pure
  | error e => exact .throw

theorem note {level : Level} {text : String} : Inquires (note level text : Task σ Unit) := fun _ => .note fun _ _ => .nil

theorem bind (h : Inquires work) (hnext : ∀ a, Inquires (next a)) : Inquires (work >>= next) := by
  intro link
  refine .bind ((h link).mono ?_)
  rintro new (e | a) link' _ hasks
  · exact hasks
  · exact (hnext a link').mono fun _ _ _ _ hmore => hasks.append hmore

end Inquires

theorem fetch_inquires (sql : String) (params : Json.Fields) : Inquires (fetch d sql params : Task σ (List Row)) :=
  fun _ => .retold (.call (fun _ _ _ _ => .query _ _ _) fun _ _ _ _ _ _ => .query _ _ _)

theorem databaseExists_inquires (database : Json) : Inquires (databaseExists d database : Task σ Bool) :=
  .bind .liftSink fun _ => .bind (fetch_inquires _ _) fun _ => .bind .liftShape fun _ => .bind .note fun _ => .pure

theorem tableExists_inquires (database table : Json) : Inquires (tableExists d database table : Task σ Bool) :=
  .bind .liftSink fun _ => .bind .liftSink fun _ => .bind .lift fun _ => .bind (fetch_inquires _ _) fun _ =>
    .bind .liftShape fun _ => .bind .note fun _ => .pure

theorem columns_inquires (database table : Json) : Inquires (columns d database table : Task σ (List Column)) :=
  .bind .lift fun _ => .bind (fetch_inquires _ _) fun _ => .liftShape

theorem columnExists_inquires (database table column : Json) :
    Inquires (columnExists d database table column : Task σ Bool) := by
  refine .bind .liftSink fun name => ?_
  split
  · exact .bind (fetch_inquires _ _) fun _ => .bind .pure fun _ => .bind .note fun _ => .pure
  · exact .bind (columns_inquires _ _) fun _ => .bind .pure fun _ => .bind .note fun _ => .pure

theorem missingOf_inquires (columns : List Column) : Inquires (missingOf d t columns : Task σ (List Column)) := by
  induction columns with
  | nil => exact .pure
  | cons column columns ih => exact .bind (columnExists_inquires _ _ _) fun _ => .bind ih fun _ => .pure

theorem reported_inquires (executed : List String) : Inquires (do
    let columns ← columns d t.database t.name
    return { Report.done with columns, executed } : Task σ Report) := .bind (columns_inquires _ _) fun _ => .pure

/-! ## Statements that are issued -/

/-- Every statement that was sent is one that may follow the calls before it. -/
def Issues (W : List Event → String → Prop) (new : List Event) : Prop :=
  ∀ before sql outcome after, new = before ++ ⟨.exec sql, outcome⟩ :: after → W before sql

section Issues

variable {W : List Event → String → Prop}

theorem Issues.of_sent (h : sent new = []) : Issues W new := by
  rintro before sql outcome after rfl
  rw [sent_append, sent_exec] at h
  exact absurd (List.append_eq_nil_iff.mp h).2 (List.cons_ne_nil _ _)

theorem Issues.append (ha : Issues W as) (hb : Issues (fun before => W (as ++ before)) bs) : Issues W (as ++ bs) := by
  intro before sql outcome after heq
  rcases List.append_eq_append_iff.mp heq with ⟨more, rfl, hbs⟩ | ⟨more, has, hmore⟩
  · exact hb more sql outcome after hbs
  · cases more with
    | nil =>
        have hlast : W (as ++ []) sql := hb [] sql outcome after hmore.symm
        rwa [List.append_nil, has, List.append_nil] at hlast
    | cons e more =>
        obtain ⟨rfl, -⟩ := List.cons_eq_cons.mp hmore
        exact ha before sql outcome more has

/-- The events of one statement: it was sent first, and no other after it. -/
def Single (sql : String) (new : List Event) : Prop :=
  ∃ outcome rest, new = ⟨.exec sql, outcome⟩ :: rest ∧ sent rest = []

theorem Single.issues (h : Single sql new) (hw : W [] sql) : Issues W new := by
  obtain ⟨outcome, rest, rfl, hrest⟩ := h
  intro before sql' outcome' after heq
  cases before with
  | nil =>
      cases heq
      exact hw
  | cons e before =>
      -- A second statement would have been sent among the rest.
      have htail : rest = before ++ ⟨.exec sql', outcome'⟩ :: after := (List.cons_eq_cons.mp heq).2
      rw [htail, sent_append, sent_exec] at hrest
      exact absurd (List.append_eq_nil_iff.mp hrest).2 (List.cons_ne_nil _ _)

end Issues

theorem Single.append (h : Single sql as) (hb : sent bs = []) : Single sql (as ++ bs) := by
  obtain ⟨outcome, rest, rfl, hrest⟩ := h
  exact ⟨outcome, rest ++ bs, rfl, by rw [sent_append, hrest, hb, List.append_nil]⟩

theorem runAndCommit_single (sql : String) (index : Option Int) (link : Link σ) :
    Ends (runAndCommit sql index) link fun new _ _ => Single sql new := by
  refine .onFault ((statement_ends sql link).mono ?_)
  rintro new (e | ⟨⟩) link' _ hq
  · obtain ⟨_, outcome, -, -, hnew⟩ := hq
    have hsingle : Single sql new := by
      rcases hnew with ⟨rfl, -⟩ | ⟨rfl, -⟩
      · exact ⟨outcome, [], rfl, rfl⟩
      · exact ⟨.done, _, rfl, rfl⟩
    refine ⟨fun f _ _ => .bind ((rollbackQuietly_ends link').mono ?_), fun _ => hsingle⟩
    rintro _ (e | ⟨⟩) link'' _ ⟨back, rfl, -⟩
    · exact hsingle.append rfl
    · refine .throw ?_
      rw [List.append_nil]
      exact hsingle.append rfl
  · subst hq
    exact ⟨fun _ h => (nomatch h), fun _ => ⟨.done, _, rfl, rfl⟩⟩

theorem execute_single (sql : String) (link : Link σ) : Ends (execute sql) link fun new _ _ => Single sql new := by
  refine .bind ((runAndCommit_single sql none link).mono ?_)
  rintro new (e | ⟨⟩) link' _ hsingle
  · exact hsingle
  · exact .note fun _ _ => hsingle.append rfl

theorem executeBatch_alone (sql : String) (link : Link σ) :
    Ends (executeBatch [sql] false) link fun new _ _ => Single sql new := by
  refine .bind (.bind ((runAndCommit_single sql (some 0) link).mono ?_))
  rintro new (e | ⟨⟩) link' _ hsingle
  · exact hsingle
  · exact .pure (.note fun _ _ => by simpa using hsingle)

/-! ## Operations -/

/-- Every statement of the work is one that the server, as the work finds it, and the calls before it allow. -/
def Issued (W : σ → List Event → String → Prop) (work : Task σ α) : Prop :=
  ∀ link, Ends work link fun new _ _ => Issues (W link.server) new

/-- What may follow some calls of a later server may follow all calls so far. -/
def Lasting (W : σ → List Event → String → Prop) : Prop :=
  ∀ s earlier before sql, W (Server.after s (earlier.map Event.call)) before sql → W s (earlier ++ before) sql

section Issued

variable {W : σ → List Event → String → Prop} {work : Task σ α} {next : α → Task σ β}

theorem Inquires.issued (h : Inquires work) : Issued W work := fun link =>
  (h link).mono fun _ _ _ _ hasks => .of_sent (sent_of_asks hasks)

/-- Hive adds columns by a single statement, after the questions that found them missing. -/
theorem addColumns_issued (h : ∀ s asked missing sql, Surveys .hive t s t.columns asked missing → missing ≠ [] →
      Dialect.hive.addColumns t missing = .ok [sql] → W s asked sql) : Issued W (addColumns .hive t) := by
  intro link
  have hsurveys : Ends (missingOf .hive t t.columns) link fun new r _ =>
      ∀ missing, r = .ok missing → Surveys .hive t link.server t.columns new missing := by
    refine Ends.mono (missingOf_surveys (R := fun _ => True) (fun _ => trivial) t.columns link) ?_
    rintro new _ _ _ ⟨-, hr⟩ missing rfl
    exact hr.2.2
  refine .bind (((missingOf_inquires t.columns link).and hsurveys).mono ?_)
  rintro asked (e | missing) link₁ hx ⟨hasks, hmissing⟩
  · exact .of_sent (sent_of_asks hasks)
  · have hquiet : ∀ more, sent more = [] → Issues (W link.server) (asked ++ more) := fun more hmore =>
      .of_sent (by rw [sent_append, sent_of_asks hasks, hmore]; rfl)
    dsimp only
    split
    · exact .bind (.note fun _ _ => .pure (hquiet _ rfl))
    · rename_i hsome
      have hne : missing ≠ [] := fun hnil => hsome (List.isEmpty_iff.mpr hnil)
      cases hbuilt : Dialect.hive.addColumns t missing with
      | error e => exact .bind (.throw (hquiet _ rfl))
      | ok statements =>
          obtain ⟨table, definitions, -, -, rfl⟩ := addColumns_grows hne hbuilt
          -- The questions sent nothing, so they are all that stands before the one statement.
          have hsent : ∀ {more}, Single _ more → Issues (W link.server) (asked ++ more) := fun hsingle =>
            (Issues.of_sent (sent_of_asks hasks)).append (hsingle.issues (by
              rw [List.append_nil]
              exact h _ _ _ _ (hmissing missing rfl) hne hbuilt))
          refine .bind (.pure (.bind ((executeBatch_alone _ link₁).mono ?_)))
          rintro more (e | ⟨⟩) link₂ _ hsingle
          · exact hsent hsingle
          · exact .bind (.note fun _ _ => .pure (hsent (hsingle.append rfl)))

variable (hw : Lasting W)
include hw

theorem Lasting.bind (h : Issued W work) (hnext : ∀ a, Issued W (next a)) : Issued W (work >>= next) := by
  intro link
  refine .bind ((h link).mono ?_)
  rintro new (e | a) link' hx hissues
  · exact hissues
  · refine (hnext a link').mono fun more _ _ _ hmore => hissues.append ?_
    rw [hx.server] at hmore
    exact fun before sql outcome after heq => hw _ _ _ _ (hmore before sql outcome after heq)

/-- A statement that was built is executed. -/
theorem Lasting.execute {x : Except Failure String} {next : String → Task σ β}
    (h : ∀ s sql, x = .ok sql → W s [] sql) (hnext : ∀ sql, Issued W (next sql)) :
    Issued W (liftM x >>= fun sql => execute sql >>= fun _ => next sql) := by
  cases x with
  | error e => exact fun _ => .bind (.throw (.of_sent rfl))
  | ok sql =>
      have hexecute : Issued W (Task.execute sql) := fun link =>
        (execute_single sql link).mono fun _ _ _ _ hsingle => hsingle.issues (h _ _ rfl)
      have hboth : Issued W (Task.execute sql >>= fun _ => next sql) := hw.bind hexecute fun _ => hnext sql
      exact hboth

theorem createDatabase_issued {database : Json} (h : ∀ s sql, d.createDatabase database = .ok sql → W s [] sql) :
    Issued W (createDatabase d database) := by
  refine hw.bind (databaseExists_inquires database).issued fun found => ?_
  split
  · exact (Inquires.note.bind fun _ => .pure).issued
  · exact hw.execute h fun _ => (Inquires.note.bind fun _ => .pure).issued

theorem createTable_issued (h : ∀ s sql, d.createTable t = .ok sql → W s [] sql) : Issued W (createTable d t) := by
  refine hw.bind (tableExists_inquires t.database t.name).issued fun found => ?_
  split
  · exact (Inquires.note.bind fun _ => reported_inquires _).issued
  · exact hw.execute h fun _ => (Inquires.note.bind fun _ => reported_inquires _).issued

theorem ensureTable_issued (hhome : ∀ s sql, Dialect.hive.createDatabase t.database = .ok sql → W s [] sql)
    (hmade : ∀ s sql, Dialect.hive.createTable t = .ok sql → W s [] sql)
    (hgrown : ∀ s asked missing sql, Surveys .hive t s t.columns asked missing → missing ≠ [] →
      Dialect.hive.addColumns t missing = .ok [sql] → W s asked sql) : Issued W (ensureTable .hive t) := by
  refine hw.bind (createDatabase_issued hw hhome) fun home => hw.bind (createTable_issued hw hmade) fun table => ?_
  split
  · exact hw.bind (addColumns_issued hgrown) fun _ => (reported_inquires _).issued
  · exact (reported_inquires _).issued

end Issued

end Task

/-! ## What a statement lists -/

namespace Hive

variable {σ : Type} [Server σ] {t : Table} {s : σ} {before : List Event} {sql : String} {own parts : List Column}
  {column : Column}

/-- A statement for a table, after some calls, with the columns that it lists as the table's own and those that it
lists as its partitions. To add columns is the last thing done, after a question for each. -/
inductive Lists (t : Table) (s : σ) (before : List Event) : String → List Column → List Column → Prop
  | home {name : String} (hname : quoteName "database" t.database = .ok name) :
      Lists t s before ("CREATE DATABASE IF NOT EXISTS " ++ name) [] []
  | made {table delimiter storage : String} {definitions partitions : List String}
      (htable : quoteTable t.database t.name = .ok table)
      (hown : Dialect.hive.Definitions (t.columns.filter (!·.partition)) definitions)
      (hparts : Dialect.hive.Definitions (t.columns.filter (·.partition)) partitions) :
      Lists t s before
        ("CREATE TABLE IF NOT EXISTS " ++ table ++ " (\n    " ++ Text.join ",\n    " definitions ++ "\n)"
          ++ t.commentAfter "\nCOMMENT "
          ++ (if partitions.isEmpty then "" else "\nPARTITIONED BY (" ++ Text.join ", " partitions ++ ")")
          ++ "\nROW FORMAT DELIMITED FIELDS TERMINATED BY '" ++ delimiter ++ "'"
          ++ "\nSTORED AS " ++ storage)
        (t.columns.filter (!·.partition)) (t.columns.filter (·.partition))
  | grown {earlier asked : List Event} {missing : List Column} {table : String} {definitions : List String}
      (hbefore : before = earlier ++ asked)
      (hsurveys : Task.Surveys .hive t (Server.after s (earlier.map Event.call)) t.columns asked missing)
      (htable : quoteTable t.database t.name = .ok table) (hmissing : Dialect.hive.Definitions missing definitions) :
      Lists t s before ("ALTER TABLE " ++ table ++ " ADD COLUMNS (" ++ Text.join ", " definitions ++ ")") missing []

/-- The last calls asked for the columns of the table one by one, and did not find the column. -/
def NotFound (t : Table) (s : σ) (before : List Event) (column : Column) : Prop :=
  ∃ earlier asked missing, before = earlier ++ asked ∧
    Task.Surveys .hive t (Server.after s (earlier.map Event.call)) t.columns asked missing ∧ column ∈ missing

/-- Only a statement that adds columns lists a partition column as the table's own. -/
theorem Lists.notFound (h : Lists t s before sql own parts) (hcolumn : column ∈ own) (hpart : column.partition = true) :
    NotFound t s before column := by
  cases h with
  | home => exact absurd hcolumn List.not_mem_nil
  | made =>
      have hplain := (List.mem_filter.mp hcolumn).2
      rw [hpart] at hplain
      cases hplain
  | grown hbefore hsurveys => exact ⟨_, _, _, hbefore, hsurveys, hcolumn⟩

theorem lists_createTable (h : createTable t = .ok sql) :
    Lists t s before sql (t.columns.filter (!·.partition)) (t.columns.filter (·.partition)) := by
  obtain ⟨columns, table, partitions, delimiter, storage, hown, htable, hparts, -, -, rfl⟩ := createTable_eq_ok h
  exact .made htable (definitions_iff.mpr hown) (definitions_iff.mpr hparts)

theorem lists_addColumns {missing : List Column} (hne : missing ≠ []) (h : addColumns t missing = .ok [sql])
    (hsurveys : Task.Surveys .hive t s t.columns before missing) : Lists t s before sql missing [] := by
  obtain ⟨rfl, -⟩ | ⟨-, definitions, table, hmissing, htable, hsql⟩ := addColumns_eq_ok h
  · exact absurd rfl hne
  · obtain rfl := List.head_eq_of_cons_eq hsql
    have hbefore : before = [] ++ before := rfl
    exact .grown hbefore hsurveys htable (definitions_iff.mpr hmissing)

/-- What a statement for a table may be: it lists columns, and a partition column as the table's own only if it was
not found just before. -/
def Lays (t : Table) (s : σ) (before : List Event) (sql : String) : Prop :=
  ∃ own parts, Lists t s before sql own parts ∧
    ∀ column ∈ own, column.partition = true → NotFound t s before column

theorem Lists.lays (h : Lists t s before sql own parts) : Lays t s before sql :=
  ⟨own, parts, h, fun _ hcolumn hpart => h.notFound hcolumn hpart⟩

theorem lasting_lays (t : Table) : Task.Lasting (Lays t : σ → List Event → String → Prop) := by
  rintro s earlier before sql ⟨own, parts, hlists, -⟩
  have hlater : Lists t s (earlier ++ before) sql own parts := by
    cases hlists with
    | home hname => exact .home hname
    | made htable hown hparts => exact .made htable hown hparts
    | grown hbefore hsurveys htable hmissing =>
        rw [← Server.after_append, ← List.map_append] at hsurveys
        exact .grown (by rw [hbefore, List.append_assoc]) hsurveys htable hmissing
  exact hlater.lays

/-- Whatever a server answers, a statement that makes a Hive table lists each column that is no partition column once
in its body, and each partition column once as a partition, in the order in which they are declared. A statement that
adds columns lists those that were not found just before, and it is the only one that lists partition columns as the
table's own. -/
theorem operations_lay (t : Table) :
    Task.Issued (Lays t) ((Operation.createTable t).run .hive : Task σ Report) ∧
      Task.Issued (Lays t) ((Operation.addColumns t).run .hive : Task σ Report) ∧
      Task.Issued (Lays t) ((Operation.ensureTable t).run .hive : Task σ Report) := by
  have hlasting : Task.Lasting (Lays t : σ → List Event → String → Prop) := lasting_lays t
  have hhome : ∀ (s : σ) sql, Dialect.hive.createDatabase t.database = .ok sql → Lays t s [] sql := by
    intro s sql h
    obtain ⟨name, hname, hsql⟩ := Except.bind_eq_ok.mp h
    cases hsql
    exact (Lists.home (Except.liftSink_eq_ok.mp hname)).lays
  have hmade : ∀ (s : σ) sql, Dialect.hive.createTable t = .ok sql → Lays t s [] sql :=
    fun _ _ h => (lists_createTable h).lays
  have hgrown : ∀ (s : σ) asked missing sql, Task.Surveys .hive t s t.columns asked missing → missing ≠ [] →
      Dialect.hive.addColumns t missing = .ok [sql] → Lays t s asked sql :=
    fun _ _ _ _ hsurveys hne h => (lists_addColumns hne h hsurveys).lays
  exact ⟨Task.createTable_issued hlasting hmade, Task.addColumns_issued hgrown,
    Task.ensureTable_issued hlasting hhome hmade hgrown⟩

/-- A table with a partition column, which is not the only one that a server lacks. -/
def partitionedTable : Table :=
  Task.plainTable [.plain "a" "INT", .plain "b" "INT", { Column.plain "dt" "STRING" with partition := true }]

/-- A server that has the first column only. -/
def barrenServer : Script :=
  { Script.empty with rules := [⟨"DESCRIBE", [], none, .rows [⟨[.string "a", .string "int", .string ""], true⟩]⟩] }

/-- A partition column is added to the table as one of its own. -/
theorem addColumns_lists_partition :
    (∃ column ∈ partitionedTable.columns, column.name = .string "dt" ∧ column.partition = true) ∧
      ∃ report after, (Operation.addColumns partitionedTable).run .hive (Link.fresh barrenServer) = .ok report after ∧
        report.executed = ["ALTER TABLE `db`.`t` ADD COLUMNS (`b` INT, `dt` STRING)"] := by
  have hrun : Task.succeeds
      (fun report _ => report.executed == ["ALTER TABLE `db`.`t` ADD COLUMNS (`b` INT, `dt` STRING)"])
      ((Operation.addColumns partitionedTable).run .hive (Link.fresh barrenServer)) = true := by decide +kernel
  obtain ⟨report, after, hok, hexecuted⟩ := Task.of_succeeds hrun
  exact ⟨⟨_, List.mem_cons_of_mem _ (List.mem_cons_of_mem _ List.mem_cons_self), rfl, rfl⟩, report, after, hok,
    beq_iff_eq.mp hexecuted⟩

end Hive

end SinkKeeper
