import SinkKeeper.Proofs.Apart
import SinkKeeper.Proofs.ColumnLists
import SinkKeeper.Proofs.Growth

/-!
# The difference that is added

Adding columns asks once for each declared column, in order, before anything is sent. What is added are the columns
whose question found nothing, in the same order; if all were found, nothing is sent and no transaction is touched.
-/

namespace SinkKeeper

open SinkKeeper.Sql

variable {d : Dialect} {t : Table} {row : Row} {rows : List Row}

/-! ## Answers that find a column -/

namespace Hive

/-- What a describe row begins with: the text of its first cell, without blanks around it. -/
def heading (row : Row) : String :=
  match row.cells with
  | .string s :: _ => Text.strip s
  | _ => ""

/-- Whether a describe row is blank or begins with a number sign. -/
def closes (row : Row) : Bool := heading row == "" || Text.startsWith (heading row) "#"

/-- The names in describe rows, up to the row that closes them. -/
def listed (rows : List Row) : List String := (rows.takeWhile (!closes ·)).map heading

theorem cell_zero_eq_ok {cell : Json} (h : row.cell 0 = .ok cell) : ∃ rest, row.cells = cell :: rest := by
  unfold Row.cell at h
  split at h
  · rename_i hcell
    cases h
    exact List.head?_eq_some_iff.mp (List.head?_eq_getElem?.trans hcell)
  · cases h

theorem closes_of_endsColumns {ended : Bool} (h : endsColumns row = .ok ended) : closes row = ended := by
  obtain ⟨cell, hcell, h⟩ := Except.bind_eq_ok.mp h
  obtain ⟨rest, hrow⟩ := cell_zero_eq_ok hcell
  by_cases ht : cell.isTruthy
  · rw [Json.orElse, if_pos ht] at h
    cases cell with
    | string s =>
        cases h
        rw [closes, heading, hrow]
    | _ => cases h
  · rw [Json.orElse, if_neg ht] at h
    cases h
    -- A cell that counts as absent shows as a blank row.
    have hblank : heading row = "" := by
      rw [heading, hrow]
      cases cell with
      | string s =>
          have hs : s = "" := by simpa [Json.isTruthy] using ht
          rw [hs]
          rfl
      | _ => rfl
    rw [closes, hblank]
    rfl

theorem name_of_columnOfRow {column : Column} (hc : closes row = false) (h : columnOfRow row = .ok column) :
    column.name = .string (heading row) := by
  obtain ⟨cell, hcell, h⟩ := Except.bind_eq_ok.mp h
  obtain ⟨type, -, h⟩ := Except.bind_eq_ok.mp h
  obtain ⟨comment, -, h⟩ := Except.bind_eq_ok.mp h
  obtain ⟨rest, hrow⟩ := cell_zero_eq_ok hcell
  cases h
  rw [closes, heading, hrow] at hc
  cases cell with
  | string s =>
      rw [heading, hrow]
      rfl
  | _ => cases hc

theorem names_of_columnsOfRows {columns : List Column} (h : Dialect.hive.columnsOfRows rows = .ok columns) :
    columns.map (·.name) = (listed rows).map .string := by
  induction rows generalizing columns with
  | nil =>
      cases h
      rfl
  | cons row rows ih =>
      obtain ⟨ended, hended, h⟩ := Except.bind_eq_ok.mp h
      have hcloses : closes row = ended := closes_of_endsColumns hended
      cases ended with
      | true =>
          cases h
          rw [listed, List.takeWhile_cons_of_neg (by simp [hcloses])]
          rfl
      | false =>
          obtain ⟨found, hfound, h⟩ := Except.bind_eq_ok.mp h
          obtain ⟨others, hothers, h⟩ := Except.bind_eq_ok.mp h
          obtain ⟨column, hcolumn, rfl⟩ := Except.map_eq_ok.mp hfound
          cases h
          rw [listed, List.takeWhile_cons_of_pos (by simp [hcloses]), List.map_cons, List.map_cons, ← listed,
            ← ih hothers, ← name_of_columnOfRow hcloses hcolumn]
          rfl

end Hive

/-- Whether an answer finds a column: any row does, but of Hive a row with its name, letter case aside, before the row
that closes the columns. -/
def Dialect.Finds (column : Column) (rows : List Row) : Dialect → Prop
  | .hive => Text.lower column.name.text ∈ (Hive.listed rows).map Text.lower
  | .mysql | .clickhouse => rows ≠ []

theorem Hive.namesColumn_iff {columns : List Column} {column : Column} {name : String}
    (h : Dialect.hive.columnsOfRows rows = .ok columns) (hn : column.name = .string name) :
    Task.namesColumn name columns = true ↔ Dialect.hive.Finds column rows := by
  have hnames : columns.map (Text.lower ·.name.text) = (Hive.listed rows).map Text.lower := by
    have := congrArg (List.map fun j => Text.lower j.text) (Hive.names_of_columnsOfRows h)
    simpa only [List.map_map, Function.comp_def, Json.text] using this
  rw [Dialect.Finds, ← hnames, hn, List.mem_map, Task.namesColumn, List.any_eq_true]
  exact exists_congr fun c => and_congr_right fun _ => beq_iff_eq

/-! ## Statements that add columns -/

/-- The statements that add columns: one for each column in order, but of Hive a single one that lists them in order.
Each definition begins with the name of its column. -/
def Dialect.Grows (t : Table) (columns : List Column) (statements : List String) : Dialect → Prop
  | .hive => ∃ table definitions, quoteTable t.database t.name = .ok table ∧
      Dialect.hive.Definitions columns definitions ∧
      statements = ["ALTER TABLE " ++ table ++ " ADD COLUMNS (" ++ Text.join ", " definitions ++ ")"]
  | d => ∃ table cluster definitions, quoteTable t.database t.name = .ok table ∧ t.clusterClause d = .ok cluster ∧
      d.Definitions columns definitions ∧
      statements = definitions.map fun definition => "ALTER TABLE " ++ table ++ cluster ++ " ADD COLUMN " ++ definition

theorem exists_of_forall₂_map {α β γ : Type} {r : α → γ → Prop} {f : γ → β} {xs : List α} {ys : List β}
    (h : List.Forall₂ (fun x y => ∃ z, r x z ∧ f z = y) xs ys) : ∃ zs, List.Forall₂ r xs zs ∧ ys = zs.map f := by
  induction h with
  | nil => exact ⟨[], .nil, rfl⟩
  | cons hxy _ ih =>
      obtain ⟨z, hr, rfl⟩ := hxy
      obtain ⟨zs, hrest, rfl⟩ := ih
      exact ⟨z :: zs, .cons hr hrest, rfl⟩

theorem addColumns_grows {columns : List Column} {statements : List String} (hne : columns ≠ [])
    (h : d.addColumns t columns = .ok statements) : d.Grows t columns statements := by
  cases d with
  | mysql =>
      obtain ⟨table, ht, hs⟩ := Mysql.addColumns_eq_ok h
      obtain ⟨definitions, hd, rfl⟩ := exists_of_forall₂_map hs
      refine ⟨table, "", definitions, ht, rfl, definitions_iff.mpr hd, ?_⟩
      rw [String.append_empty]
  | hive =>
      obtain ⟨rfl, -⟩ | ⟨-, definitions, table, hd, ht, rfl⟩ := Hive.addColumns_eq_ok h
      · exact absurd rfl hne
      · exact ⟨table, definitions, ht, definitions_iff.mpr hd, rfl⟩
  | clickhouse =>
      obtain ⟨table, cluster, ht, hc, hs⟩ := Clickhouse.addColumns_eq_ok h
      obtain ⟨definitions, hd, rfl⟩ := exists_of_forall₂_map hs
      exact ⟨table, cluster, definitions, ht, hc, definitions_iff.mpr hd, rfl⟩

theorem Dialect.Grows.ne_nil {columns : List Column} {statements : List String} (h : d.Grows t columns statements)
    (hne : columns ≠ []) : statements ≠ [] := by
  have hsome : ∀ {definitions : List String}, d.Definitions columns definitions → definitions ≠ [] := by
    rintro definitions hd rfl
    exact hne (List.forall₂_nil_right_iff.mp hd)
  cases d with
  | hive =>
      obtain ⟨_, _, -, -, rfl⟩ := h
      exact List.cons_ne_nil _ _
  | mysql =>
      obtain ⟨_, _, _, -, -, hd, rfl⟩ := h
      exact fun hnil => hsome hd (List.map_eq_nil_iff.mp hnil)
  | clickhouse =>
      obtain ⟨_, _, _, -, -, hd, rfl⟩ := h
      exact fun hnil => hsome hd (List.map_eq_nil_iff.mp hnil)

namespace Task

variable {σ α : Type} [Server σ] {s : σ} {link : Link σ}

/-! ## Surveys -/

/-- One question for each column, in order, all answered by the server; the columns whose answer did not find them are
kept. -/
inductive Surveys (d : Dialect) (t : Table) : σ → List Column → List Event → List Column → Prop
  | nil {s : σ} : Surveys d t s [] [] []
  | found {s : σ} {column : Column} {c : Call} {rows : List Row} {columns missing : List Column} {asked : List Event}
      (checks : d.Checks t column c) (answered : (Server.respond s c).1 = .rows rows) (finds : d.Finds column rows)
      (rest : Surveys d t (Server.respond s c).2 columns asked missing) :
      Surveys d t s (column :: columns) (⟨c, .done⟩ :: asked) missing
  | absent {s : σ} {column : Column} {c : Call} {rows : List Row} {columns missing : List Column} {asked : List Event}
      (checks : d.Checks t column c) (answered : (Server.respond s c).1 = .rows rows) (lacks : ¬d.Finds column rows)
      (rest : Surveys d t (Server.respond s c).2 columns asked missing) :
      Surveys d t s (column :: columns) (⟨c, .done⟩ :: asked) (column :: missing)

theorem columnExists_finds {column : Column} {R : List Event → Prop} (hr : ∀ new, R new) (link : Link σ) :
    Runs d True (columnExists d t.database t.name column.name) link R fun found new =>
      ∃ c rows, new = [⟨c, .done⟩] ∧ d.Checks t column c ∧ (Server.respond link.server c).1 = .rows rows ∧
        (found = true ↔ d.Finds column rows) := by
  refine .checkSink (checkName_fails _ _) (hr []) ?_
  intro name hname
  obtain ⟨hname, -⟩ := checkName_eq_ok.mp hname
  split
  · rename_i query hquery
    refine (fetch_runs _ _ link).bind ?_
    rintro rows new link' - ⟨rfl, ha⟩
    rw [pure_bind]
    refine .afterNote fun _ _ => .pure ⟨_, rows, rfl, .asked hquery, ha, ?_⟩
    have hany : (!rows.isEmpty) = true ↔ rows ≠ [] := by simp
    cases d with
    | hive => cases hquery
    | mysql => exact hany
    | clickhouse => exact hany
  · rename_i hnone
    unfold columns
    rw [bind_assoc]
    refine .check ((describeTable_fails _ _).rejecting (hr [])) ?_
    intro sql hsql
    rw [bind_assoc]
    refine (fetch_runs _ _ link).bind ?_
    rintro rows new link' - ⟨rfl, ha⟩
    refine .checkShape (fun _ _ => trivial) ?_
    intro there hthere
    rw [pure_bind]
    refine .afterNote fun _ _ => .pure ⟨_, rows, rfl, .described hnone hsql, ha, ?_⟩
    cases d with
    | hive => exact Hive.namesColumn_iff hthere hname
    | mysql => cases hnone
    | clickhouse => cases hnone

theorem missingOf_surveys {R : List Event → Prop} (hr : ∀ new, R new) (columns : List Column) (link : Link σ) :
    Runs d True (missingOf d t columns) link R fun missing new => Surveys d t link.server columns new missing := by
  induction columns generalizing link R with
  | nil => exact .pure .nil
  | cons column columns ih =>
      refine (columnExists_finds hr link).bind ?_
      rintro found new link' hx ⟨c, rows, rfl, hchecks, ha, hfound⟩
      refine (ih (fun _ => hr _) link').bind ?_
      intro missing more link'' _ hrest
      rw [hx.server] at hrest
      refine .pure ?_
      rw [List.append_nil]
      cases found with
      | true => exact .found hchecks ha (hfound.mp rfl) hrest
      | false => exact .absent hchecks ha (fun hfinds => Bool.false_ne_true (hfound.mpr hfinds)) hrest

theorem Surveys.sublist {columns missing : List Column} {asked : List Event}
    (h : Surveys d t s columns asked missing) : missing.Sublist columns := by
  induction h with
  | nil => exact .slnil
  | found _ _ _ _ ih => exact ih.cons _
  | absent _ _ _ _ ih => exact ih.cons_cons _

/-- A question opens a transaction, which no other question ends. -/
theorem Surveys.openAfter_eq {columns missing : List Column} {asked : List Event}
    (h : Surveys d t s columns asked missing) (open? : Bool) :
    openAfter open? asked = (open? || !columns.isEmpty) := by
  have hopens : ∀ {column : Column} {c : Call} {open? : Bool}, d.Checks t column c →
      transactionAfter c .done open? = true := by
    intro column c open? hchecks
    cases hchecks <;> rfl
  induction h generalizing open? with
  | nil => exact (Bool.or_false open?).symm
  | found checks _ _ _ ih =>
      rw [openAfter, List.foldl_cons, hopens checks, ← openAfter, ih]
      simp
  | absent checks _ _ _ ih =>
      rw [openAfter, List.foldl_cons, hopens checks, ← openAfter, ih]
      simp

/-! ## Adding columns -/

/-- The calls of a batch that is done, of a dialect: in one transaction, after the one that was open was settled, or
each statement with a commit of its own. -/
def batched (d : Dialect) (open? : Bool) (statements : List String) : List Event :=
  if d.hasTransactions then settling open? ++ ⟨.start, .done⟩ :: (statements.map executed ++ [⟨.commit, .done⟩])
  else committedEach statements

theorem executeBatch_batched {statements : List String} {loose : Prop} {R : List Event → Prop}
    (hne : statements ≠ []) (link : Link σ) :
    Runs d loose (executeBatch statements d.hasTransactions) link R fun _ new =>
      new = batched d link.inTransaction statements := by
  have hdone : Ends (executeBatch statements d.hasTransactions) link fun new r _ =>
      r = .ok () → new = batched d link.inTransaction statements := by
    rw [executeBatch, if_neg fun h => hne (List.isEmpty_iff.mp h), batched]
    split
    · refine (executeTogether_ends statements link).mono ?_
      rintro new _ _ - hcourse rfl
      cases hcourse
      rfl
    · refine (executeEach_stops statements link).mono ?_
      rintro new _ _ - hstops rfl
      exact hstops
  have hruns : Runs d loose (executeBatch statements d.hasTransactions) link R fun _ new => Sends statements new :=
    executeBatch_runs statements d.hasTransactions link
  refine (Ends.and hruns hdone).mono ?_
  rintro new (e | ⟨⟩) link' _ ⟨⟨hw, hr⟩, hnew⟩
  · exact ⟨hw, hr⟩
  · exact ⟨hw, hr.1, hr.2.1, hnew rfl⟩

/-- Columns that were added: the events of their batch, and the statements that a report tells. -/
inductive Grown (d : Dialect) (t : Table) (report : Report) : List Event → Prop
  | unchanged (none : report.columns = []) (quiet : report.executed = []) : Grown d t report []
  | added (some : report.columns ≠ []) (grows : d.Grows t report.columns report.executed) :
      Grown d t report (batched d true report.executed)

/-- Adding columns adds just the difference. If it succeeds, one question was put for each declared column, in their
order, before anything else; the columns reported are those whose question found nothing, and just these were added,
in the same order. If there are none, the questions are all that was done. -/
theorem addColumns_adds_difference (d : Dialect) (t : Table) (link : Link σ) :
    Ends (addColumns d t) link fun new r _ => ∀ report, r = .ok report →
      report.success = true ∧ ∃ asked rest, new = asked ++ rest ∧
        Surveys d t link.server t.columns asked report.columns ∧ Grown d t report rest := by
  have hruns : Runs d True (addColumns d t) link (fun _ => True) fun report new =>
      report.success = true ∧ ∃ asked rest, new = asked ++ rest ∧
        Surveys d t link.server t.columns asked report.columns ∧ Grown d t report rest := by
    refine (missingOf_surveys (fun _ => trivial) t.columns link).bind ?_
    rintro missing asked link₁ hx hsurveys
    split
    · rename_i hnone
      refine .afterNote fun _ _ => .pure ⟨rfl, asked, [], rfl, ?_, .unchanged rfl rfl⟩
      rw [List.isEmpty_iff.mp hnone] at hsurveys
      exact hsurveys
    · rename_i hsome
      have hne : missing ≠ [] := fun h => hsome (List.isEmpty_iff.mpr h)
      refine .check ((addColumns_fails (.inl trivial)).rejecting trivial) ?_
      intro statements hstatements
      have hgrows := addColumns_grows hne hstatements
      have hopen : link₁.inTransaction = true := by
        have hdeclared : t.columns ≠ [] := fun h => hne (List.sublist_nil.mp (h ▸ hsurveys.sublist))
        rw [hx.inTransaction, hsurveys.openAfter_eq]
        simp [hdeclared]
      refine (executeBatch_batched (hgrows.ne_nil hne) link₁).bind ?_
      rintro _ _ link₂ - rfl
      refine .afterNote fun _ _ => .pure ⟨rfl, asked, _, rfl, hsurveys, ?_⟩
      rw [List.append_nil, hopen]
      exact .added hne hgrows
  refine Ends.mono hruns ?_
  rintro new _ _ - ⟨-, hr⟩ report rfl
  exact hr.2.2

end Task

end SinkKeeper
