import SinkKeeper.Proofs.Answers

/-!
# What is refused

Checks and builders fail in two ways: what they are given is rejected, or it does not have the shape that its use
needs. The second way is closed where texts are given for texts and rows are as an engine gives them.
-/

namespace SinkKeeper

open SinkKeeper.Sql

/-! ## Results that may be errors -/

section Fails

variable {ε α β : Type} {p : ε → Prop}

/-- The error of a result, if it is one, is as `p` tells. -/
def Fails (p : ε → Prop) (x : Except ε α) : Prop := ∀ e, x = .error e → p e

theorem Fails.ok {a : α} : Fails p (.ok a) := by
  intro e h
  cases h

theorem Fails.of_eq_ok {x : Except ε α} {a : α} (h : x = .ok a) : Fails p x := by
  subst h
  exact .ok

theorem Fails.error {e : ε} (h : p e) : Fails p (.error e : Except ε α) := by
  intro e' he
  cases he
  exact h

theorem Fails.imp {q : ε → Prop} {x : Except ε α} (h : Fails p x) (hpq : ∀ e, p e → q e) : Fails q x :=
  fun e he => hpq e (h e he)

theorem Fails.bind {x : Except ε α} {f : α → Except ε β} (hx : Fails p x) (hf : ∀ a, x = .ok a → Fails p (f a)) :
    Fails p (x >>= f) := by
  cases x with
  | error e => exact .error (hx e rfl)
  | ok a => exact hf a rfl

theorem Fails.map {x : Except ε α} {f : α → β} (h : Fails p x) : Fails p (x.map f) := by
  cases x with
  | error e => exact .error (h e rfl)
  | ok a => exact .ok

theorem Fails.mapM {f : α → Except ε β} {xs : List α} (h : ∀ x ∈ xs, Fails p (f x)) : Fails p (xs.mapM f) := by
  induction xs with
  | nil => exact .ok
  | cons x xs ih =>
      obtain ⟨hx, hxs⟩ := List.forall_mem_cons.mp h
      rw [List.mapM_cons]
      exact hx.bind fun _ _ => (ih hxs).bind fun _ _ => .ok

end Fails

variable {d : Dialect} {t : Table} {c : Column} {loose rejects : Prop} {α : Type}

def SinkError.Invalid (e : SinkError) : Prop := e.family = .validation

/-- A rejection, which comes in a given case only, or a complaint about a shape, where shapes may be loose. -/
inductive Refusal (loose rejects : Prop) : Failure → Prop
  | invalid {e : SinkError} (h : e.Invalid) (hr : rejects) : Refusal loose rejects (.sink e)
  | shape {e : ShapeError} (h : loose) : Refusal loose rejects (.shape e)

theorem Refusal.imp {rejects' : Prop} {e : Failure} (h : Refusal loose rejects e) (hr : rejects → rejects') :
    Refusal loose rejects' e := by
  cases h with
  | invalid h hrejects => exact .invalid h (hr hrejects)
  | shape h => exact .shape h

theorem Fails.rejecting {x : Except Failure α} (h : Fails (Refusal loose True) x) (hr : rejects) :
    Fails (Refusal loose rejects) x := h.imp fun _ he => he.imp fun _ => hr

theorem Fails.liftSink {x : Except SinkError α} (h : Fails SinkError.Invalid x) :
    Fails (Refusal loose True) (liftM x : Except Failure α) := by
  cases x with
  | error e => exact .error (.invalid (h e rfl) trivial)
  | ok a => exact .ok

theorem Fails.liftShape {x : Except ShapeError α} (h : Fails (fun _ => loose) x) :
    Fails (Refusal loose True) (liftM x : Except Failure α) := by
  cases x with
  | error e => exact .error (.shape (h e rfl))
  | ok a => exact .ok

/-! ## Checks -/

theorem refusedToken_fails {b : Bool} {a : α} {text : String} :
    Fails SinkError.Invalid (if b then .ok a else .error (.refusedToken text)) := by
  cases b with
  | true => exact .ok
  | false => exact .error rfl

theorem checkName_fails (kind : String) (j : Json) : Fails SinkError.Invalid (checkName kind j) := by
  cases j with
  | string s => exact refusedToken_fails
  | _ => exact .error rfl

theorem checkType_fails (j : Json) : Fails SinkError.Invalid (checkType j) := by
  cases j with
  | string s => exact refusedToken_fails
  | _ => exact .error rfl

theorem checkExpression_fails (kind : String) (j : Json) : Fails SinkError.Invalid (checkExpression kind j) := by
  cases j with
  | string s => exact refusedToken_fails
  | _ => exact .error rfl

theorem quoteName_fails (kind : String) (j : Json) : Fails SinkError.Invalid (quoteName kind j) :=
  (checkName_fails kind j).map

theorem quoteTable_fails (database table : Json) : Fails SinkError.Invalid (quoteTable database table) :=
  (quoteName_fails _ _).bind fun _ _ => (quoteName_fails _ _).bind fun _ _ => .ok

theorem quoteNames_fails (kind : String) (names : List Json) : Fails SinkError.Invalid (quoteNames kind names) :=
  (Fails.mapM fun name _ => quoteName_fails kind name).map

/-! ## Texts -/

/-- A text, or null. -/
def Json.IsText (j : Json) : Prop := j = .null ∨ ∃ s, j = .string s

theorem Json.IsText.orElse {j : Json} (h : j.IsText) (s : String) : ∃ s', j.orElse (.string s) = .string s' := by
  obtain rfl | ⟨s', rfl⟩ := h
  · exact ⟨s, rfl⟩
  · unfold Json.orElse
    split
    · exact ⟨s', rfl⟩
    · exact ⟨s, rfl⟩

theorem upper_fails {j : Json} (h : loose ∨ ∃ s, j = .string s) : Fails (fun _ => loose) j.upper := by
  obtain h | ⟨s, rfl⟩ := h
  · exact fun _ _ => h
  · exact .ok

/-- The options of a table that are read as texts are texts, or null where they may be left out. -/
structure Table.Typed (t : Table) : Prop where
  fieldDelimiter : t.fieldDelimiter.IsText
  storedAs : t.storedAs.IsText
  ttlUnit : ∃ s, t.ttlUnit = .string s
  defaultKind : ∀ c ∈ t.columns, c.defaultKind.IsText

/-! ## Columns -/

theorem Clickhouse.defaultClause_fails (h : loose ∨ c.defaultKind.IsText) :
    Fails (Refusal loose True) (Clickhouse.defaultClause c) := by
  unfold Clickhouse.defaultClause
  split
  · refine (Fails.liftShape (upper_fails (h.imp_right (·.orElse _)))).bind fun kind _ => ?_
    split
    · exact .error (.invalid rfl trivial)
    · exact (Fails.liftSink (checkExpression_fails _ _)).bind fun _ _ => .ok
  · exact .ok

theorem Clickhouse.codecClause_fails (codec : Json) : Fails SinkError.Invalid (Clickhouse.codecClause codec) := by
  unfold Clickhouse.codecClause
  split
  · exact (checkExpression_fails _ _).bind fun _ _ => .ok
  · exact .ok

theorem Clickhouse.ttlClause_fails (expression : Json) :
    Fails SinkError.Invalid (Clickhouse.ttlClause expression) := by
  unfold Clickhouse.ttlClause
  split
  · exact (checkExpression_fails _ _).map
  · exact .ok

theorem columnDefinition_fails (h : loose ∨ c.defaultKind.IsText) :
    Fails (Refusal loose True) (d.columnDefinition c) := by
  cases d with
  | mysql =>
      refine (Fails.liftSink (quoteName_fails _ _)).bind fun _ _ => ?_
      exact (Fails.liftSink (checkType_fails _)).bind fun _ _ => .ok
  | hive =>
      refine (Fails.liftSink (quoteName_fails _ _)).bind fun _ _ => ?_
      exact (Fails.liftSink (checkType_fails _)).bind fun _ _ => .ok
  | clickhouse =>
      refine (Fails.liftSink (quoteName_fails _ _)).bind fun _ _ => ?_
      refine (Fails.liftSink (checkType_fails _)).bind fun _ _ => ?_
      refine (Clickhouse.defaultClause_fails h).bind fun _ _ => ?_
      refine (Fails.liftSink (Clickhouse.codecClause_fails _)).bind fun _ _ => ?_
      exact (Fails.liftSink (Clickhouse.ttlClause_fails _)).bind fun _ _ => .ok

theorem definitions_fail {columns : List Column} (h : loose ∨ ∀ c ∈ columns, c.defaultKind.IsText) :
    Fails (Refusal loose True) (columns.mapM d.columnDefinition) :=
  .mapM fun c hc => columnDefinition_fails (h.imp_right fun h => h c hc)

/-! ## Statements -/

theorem Mysql.keyItems_fails (names : List Json) : Fails SinkError.Invalid (Mysql.keyItems names) := by
  unfold Mysql.keyItems
  split
  · exact .ok
  · exact (quoteNames_fails _ _).map

theorem Mysql.createTable_fails (h : loose ∨ t.Typed) : Fails (Refusal loose True) (Mysql.createTable t) := by
  refine (definitions_fail (d := .mysql) (h.imp_right (·.defaultKind))).bind fun _ _ => ?_
  refine (Fails.liftSink (Mysql.keyItems_fails _)).bind fun _ _ => ?_
  refine (Fails.liftSink (checkExpression_fails _ _)).bind fun _ _ => ?_
  refine (Fails.liftSink (checkExpression_fails _ _)).bind fun _ _ => ?_
  exact (Fails.liftSink (quoteTable_fails _ _)).bind fun _ _ => .ok

theorem Hive.checkDelimiter_fails {j : Json} (h : loose ∨ ∃ s, j = .string s) :
    Fails (Refusal loose True) (Hive.checkDelimiter j) := by
  cases j with
  | string s =>
      simp only [Hive.checkDelimiter]
      split
      · exact .ok
      · exact .error (.invalid rfl trivial)
  | _ => exact .error (.shape (h.resolve_right (by simp)))

theorem Hive.checkStorage_fails {j : Json} (h : loose ∨ j.IsText) :
    Fails (Refusal loose True) (Hive.checkStorage j) := by
  refine (Fails.liftShape (upper_fails (h.imp_right (·.orElse _)))).bind fun _ _ => ?_
  split
  · exact .ok
  · exact .error (.invalid rfl trivial)

theorem Hive.createTable_fails (h : loose ∨ t.Typed) : Fails (Refusal loose True) (Hive.createTable t) := by
  have hfilter : ∀ q : Column → Bool, loose ∨ ∀ c ∈ t.columns.filter q, c.defaultKind.IsText :=
    fun q => h.imp_right fun h c hc => h.defaultKind c (List.mem_of_mem_filter hc)
  refine (definitions_fail (d := .hive) (hfilter _)).bind fun _ _ => ?_
  refine (Fails.liftSink (quoteTable_fails _ _)).bind fun _ _ => ?_
  refine (definitions_fail (d := .hive) (hfilter _)).bind fun _ _ => ?_
  refine (Hive.checkDelimiter_fails (h.imp_right (·.fieldDelimiter.orElse _))).bind fun _ _ => ?_
  exact (Hive.checkStorage_fails (h.imp_right (·.storedAs))).bind fun _ _ => .ok

theorem Clickhouse.onCluster_fails (cluster : Json) : Fails SinkError.Invalid (Clickhouse.onCluster cluster) := by
  unfold Clickhouse.onCluster
  split
  · exact (quoteName_fails _ _).map
  · exact .ok

theorem Clickhouse.retention_fails (h : loose ∨ t.Typed) : Fails (Refusal loose True) (Clickhouse.retention t) := by
  unfold Clickhouse.retention
  split
  · exact .ok
  · refine (Fails.liftShape (upper_fails (h.imp_right (·.ttlUnit)))).bind fun _ _ => ?_
    split
    · exact .error (.invalid rfl trivial)
    · exact (Fails.liftSink (quoteName_fails _ _)).bind fun _ _ => .ok

theorem Clickhouse.partitionClause_fails (key : Json) :
    Fails SinkError.Invalid (Clickhouse.partitionClause key) := by
  unfold Clickhouse.partitionClause
  split
  · exact (checkExpression_fails _ _).map
  · exact .ok

theorem Clickhouse.orderClause_fails (names : List Json) :
    Fails SinkError.Invalid (Clickhouse.orderClause names) := by
  unfold Clickhouse.orderClause
  split
  · exact .ok
  · exact (quoteNames_fails _ _).map

theorem Clickhouse.keyClause_fails (names : List Json) : Fails SinkError.Invalid (Clickhouse.keyClause names) := by
  unfold Clickhouse.keyClause
  split
  · exact .ok
  · exact (quoteNames_fails _ _).map

theorem Clickhouse.createTable_fails (h : loose ∨ t.Typed) :
    Fails (Refusal loose True) (Clickhouse.createTable t) := by
  refine (definitions_fail (d := .clickhouse) (h.imp_right (·.defaultKind))).bind fun _ _ => ?_
  refine (Clickhouse.retention_fails h).bind fun _ _ => ?_
  refine (Fails.liftSink (quoteTable_fails _ _)).bind fun _ _ => ?_
  refine (Fails.liftSink (Clickhouse.onCluster_fails _)).bind fun _ _ => ?_
  refine (Fails.liftSink (checkExpression_fails _ _)).bind fun _ _ => ?_
  refine (Fails.liftSink (Clickhouse.partitionClause_fails _)).bind fun _ _ => ?_
  refine (Fails.liftSink (Clickhouse.orderClause_fails _)).bind fun _ _ => ?_
  exact (Fails.liftSink (Clickhouse.keyClause_fails _)).bind fun _ _ => .ok

theorem createTable_fails (h : loose ∨ t.Typed) : Fails (Refusal loose True) (d.createTable t) := by
  cases d with
  | mysql => exact Mysql.createTable_fails h
  | hive => exact Hive.createTable_fails h
  | clickhouse => exact Clickhouse.createTable_fails h

theorem describeTable_fails (database table : Json) :
    Fails (Refusal loose True) (d.describeTable database table) := by
  cases d with
  | mysql => exact (Fails.liftSink (quoteTable_fails _ _)).bind fun _ _ => .ok
  | hive => exact (Fails.liftSink (quoteTable_fails _ _)).bind fun _ _ => .ok
  | clickhouse => exact (Fails.liftSink (quoteTable_fails _ _)).bind fun _ _ => .ok

theorem tableExists_fails (database table : Json) : Fails (Refusal loose True) (d.tableExists database table) := by
  cases d with
  | mysql => exact .ok
  | clickhouse => exact .ok
  | hive => exact (Fails.liftSink (quoteName_fails _ _)).bind fun _ _ => .ok

theorem listTables_fails (database : Json) : Fails (Refusal loose True) (d.listTables database) := by
  cases d with
  | mysql => exact .ok
  | clickhouse => exact .ok
  | hive => exact (Fails.liftSink (quoteName_fails _ _)).bind fun _ _ => .ok

theorem addColumns_fails {columns : List Column} (h : loose ∨ ∀ c ∈ columns, c.defaultKind.IsText) :
    Fails (Refusal loose True) (d.addColumns t columns) := by
  have hdef : ∀ c ∈ columns, Fails (Refusal loose True) (d.columnDefinition c) :=
    fun c hc => columnDefinition_fails (h.imp_right fun h => h c hc)
  cases d with
  | mysql =>
      refine (Fails.liftSink (quoteTable_fails _ _)).bind fun _ _ => ?_
      exact .mapM fun c hc => (hdef c hc).bind fun _ _ => .ok
  | hive =>
      show Fails (Refusal loose True) (Hive.addColumns t columns)
      unfold Hive.addColumns
      split
      · exact .ok
      · refine (Fails.mapM hdef).bind fun _ _ => ?_
        exact (Fails.liftSink (quoteTable_fails _ _)).bind fun _ _ => .ok
  | clickhouse =>
      refine (Fails.liftSink (quoteTable_fails _ _)).bind fun _ _ => ?_
      refine (Fails.liftSink (Clickhouse.onCluster_fails _)).bind fun _ _ => ?_
      exact .mapM fun c hc => (hdef c hc).bind fun _ _ => .ok

/-! ## Rows -/

/-- How many cells follow the name in a describe row. -/
def Dialect.describedCells : Dialect → Nat
  | .mysql => 4
  | .hive => 2
  | .clickhouse => 6

variable {rows : List Row}

theorem rowsContain_ok {name : String} (h : ∀ row ∈ rows, ∃ cell, row.cell 0 = .ok cell) :
    ∃ found, d.rowsContain rows (.string name) = .ok found := by
  cases d with
  | mysql => exact ⟨_, rfl⟩
  | clickhouse => exact ⟨_, rfl⟩
  | hive =>
      obtain ⟨found, hf, -⟩ := Hive.rowsContain_eq h
      exact ⟨found, hf⟩

theorem Hive.columnsOfRows_ok (h : ∀ row ∈ rows, ∃ shown, row.Names 2 shown) :
    ∃ columns, Dialect.hive.columnsOfRows rows = .ok columns := by
  induction rows with
  | nil => exact ⟨[], rfl⟩
  | cons row rows ih =>
      obtain ⟨⟨shown, hs⟩, hrest⟩ := List.forall_mem_cons.mp h
      obtain ⟨columns, hc⟩ := ih hrest
      obtain ⟨column, hcol, -⟩ := Hive.columnOfRow_ok hs
      cases he : (Text.strip shown == "" || Text.startsWith (Text.strip shown) "#") with
      | true =>
          have hends : Dialect.hive.endsColumns row = .ok true := (Hive.endsColumns_eq hs).trans (by rw [he])
          exact ⟨[], by rw [Dialect.columnsOfRows, hends]; rfl⟩
      | false =>
          have hends : Dialect.hive.endsColumns row = .ok false := (Hive.endsColumns_eq hs).trans (by rw [he])
          exact ⟨_, Dialect.columnsOfRows_cons hends (c := some column) (by rw [Dialect.columnOfRow, hcol]; rfl) hc⟩

theorem columnsOfRows_ok (h : ∀ row ∈ rows, ∃ shown, row.Names d.describedCells shown) :
    ∃ columns, d.columnsOfRows rows = .ok columns := by
  cases d with
  | mysql =>
      refine Dialect.exists_columnsOfRows fun row hr => ⟨rfl, ?_⟩
      obtain ⟨shown, hs⟩ := h row hr
      obtain ⟨column, hcol⟩ := Mysql.columnOfRow_ok hs
      exact ⟨some column, by rw [Dialect.columnOfRow, hcol]; rfl⟩
  | hive => exact Hive.columnsOfRows_ok h
  | clickhouse =>
      refine Dialect.exists_columnsOfRows fun row hr => ⟨rfl, ?_⟩
      obtain ⟨shown, hs⟩ := h row hr
      exact Clickhouse.columnOfRow_ok hs

end SinkKeeper
