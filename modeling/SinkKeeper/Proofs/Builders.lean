import Mathlib.Data.List.Forall2
import SinkKeeper.Dialect

/-!
# What builders write

A builder refuses its input or puts a statement together from pieces that passed their checks. For each
builder a lemma tells the pieces of what it wrote.
-/

namespace SinkKeeper

open SinkKeeper.Sql

variable {ε ε' α β : Type}

/-! ## Results that may be errors -/

theorem Except.bind_eq_ok {x : Except ε α} {f : α → Except ε β} {b : β} :
    (x >>= f) = .ok b ↔ ∃ a, x = .ok a ∧ f a = .ok b := by
  cases x <;> simp [bind, Except.bind]

theorem Except.pure_eq_ok {a b : α} : (pure a : Except ε α) = .ok b ↔ a = b := by
  simp [pure, Except.pure]

theorem Except.throw_ne_ok {e : ε} {a : α} : (throw e : Except ε α) ≠ .ok a := by
  simp [throw, throwThe, MonadExceptOf.throw]

theorem Except.map_eq_ok {x : Except ε α} {f : α → β} {b : β} : x.map f = .ok b ↔ ∃ a, x = .ok a ∧ f a = b := by
  cases x <;> simp [Except.map]

theorem Except.toOption_eq_some {x : Except ε α} {a : α} : x.toOption = some a ↔ x = .ok a := by
  cases x <;> simp [Except.toOption]

theorem Except.mapError_eq_ok {x : Except ε α} {f : ε → ε'} {a : α} : x.mapError f = .ok a ↔ x = .ok a := by
  cases x with
  | error e => exact ⟨fun h => (by cases h), fun h => (by cases h)⟩
  | ok b =>
      show Except.ok b = Except.ok a ↔ _
      rw [Except.ok.injEq, Except.ok.injEq]

theorem Except.ite_eq_ok {p : Prop} [Decidable p] {a b : α} {e : ε} :
    (if p then .ok a else .error e) = Except.ok b ↔ p ∧ a = b := by
  by_cases h : p <;> simp [h]

theorem Except.liftSink_eq_ok {x : Except SinkError α} {a : α} :
    (liftM x : Except Failure α) = .ok a ↔ x = .ok a := Except.mapError_eq_ok

theorem Except.liftShape_eq_ok {x : Except ShapeError α} {a : α} :
    (liftM x : Except Failure α) = .ok a ↔ x = .ok a := Except.mapError_eq_ok

theorem Except.forall_eq_ok {x : Except ε α} {p : α → Prop} {a : α} (h : x = .ok a) :
    (∀ b, x = .ok b → p b) ↔ p a := by
  subst h
  simp

theorem Except.mapM_eq_ok {f : α → Except ε β} {xs : List α} {ys : List β} :
    xs.mapM f = .ok ys ↔ List.Forall₂ (fun x y => f x = .ok y) xs ys := by
  induction xs generalizing ys with
  | nil => cases ys <;> simp [Except.pure_eq_ok]
  | cons x xs ih =>
      rw [List.mapM_cons]
      simp only [Except.bind_eq_ok, Except.pure_eq_ok, ih]
      cases ys <;> simp

theorem Except.bind_eq_error {x : Except ε α} {f : α → Except ε β} {e : ε} :
    (x >>= f) = .error e ↔ x = .error e ∨ ∃ a, x = .ok a ∧ f a = .error e := by
  cases x <;> simp [bind, Except.bind]

theorem Except.mapError_eq_error {x : Except ε α} {f : ε → ε'} {e : ε'} :
    x.mapError f = .error e ↔ ∃ reason, x = .error reason ∧ f reason = e := by
  cases x <;> simp [Except.mapError]

/-- Work over a list fails at the first item that it fails for. -/
theorem Except.mapM_eq_error {f : α → Except ε β} {xs : List α} {e : ε} :
    xs.mapM f = .error e ↔
      ∃ before x after, xs = before ++ x :: after ∧ (∀ y ∈ before, ∃ b, f y = .ok b) ∧ f x = .error e := by
  induction xs with
  | nil => simp [pure, Except.pure]
  | cons x xs ih =>
      rw [List.mapM_cons, Except.bind_eq_error]
      constructor
      · rintro (hx | ⟨b, hb, hrest⟩)
        · exact ⟨[], x, xs, rfl, fun _ h => absurd h List.not_mem_nil, hx⟩
        · rcases Except.bind_eq_error.mp hrest with hxs | ⟨bs, -, hpure⟩
          · obtain ⟨before, y, after, rfl, hbefore, hy⟩ := ih.mp hxs
            exact ⟨x :: before, y, after, rfl, List.forall_mem_cons.mpr ⟨⟨b, hb⟩, hbefore⟩, hy⟩
          · cases hpure
      · rintro ⟨before, y, after, hsplit, hbefore, hy⟩
        cases before with
        | nil =>
            cases hsplit
            exact .inl hy
        | cons z before =>
            cases hsplit
            obtain ⟨⟨b, hb⟩, hothers⟩ := List.forall_mem_cons.mp hbefore
            exact .inr ⟨b, hb, Except.bind_eq_error.mpr (.inl (ih.mpr ⟨before, y, after, rfl, hothers, hy⟩))⟩

/-! ## Checked tokens -/

namespace Sql

variable {kind : String} {j : Json} {s : String}

def quoted (name : String) : String := "`" ++ name ++ "`"

theorem checkName_eq_ok : checkName kind j = .ok s ↔ j = .string s ∧ isName s.toList = true := by
  cases j with
  | string name =>
      simp only [checkName, Except.ite_eq_ok, Json.string.injEq]
      constructor
      · rintro ⟨hn, rfl⟩
        exact ⟨rfl, hn⟩
      · rintro ⟨rfl, hn⟩
        exact ⟨hn, rfl⟩
  | _ => simp [checkName]

theorem quoteName_eq_ok : quoteName kind j = .ok s ↔
    ∃ name, (j = .string name ∧ isName name.toList = true) ∧ quoted name = s := by
  simp only [quoteName, Except.map_eq_ok, checkName_eq_ok, quoted]

theorem quoteTable_eq_ok {database table : Json} : quoteTable database table = .ok s ↔
    ∃ d, (database = .string d ∧ isName d.toList = true) ∧
      ∃ t, (table = .string t ∧ isName t.toList = true) ∧ quoted d ++ "." ++ quoted t = s := by
  simp only [quoteTable, Except.bind_eq_ok, quoteName_eq_ok, Except.pure_eq_ok]
  constructor
  · rintro ⟨_, ⟨d, hd, rfl⟩, _, ⟨t, ht, rfl⟩, rfl⟩
    exact ⟨d, hd, t, ht, rfl⟩
  · rintro ⟨d, hd, t, ht, rfl⟩
    exact ⟨_, ⟨d, hd, rfl⟩, _, ⟨t, ht, rfl⟩, rfl⟩

theorem quoteNames_eq_ok {names : List Json} : quoteNames kind names = .ok s ↔
    ∃ quotes, List.Forall₂ (fun name q => quoteName kind name = .ok q) names quotes ∧
      Text.join ", " quotes = s := by
  simp only [quoteNames, Except.map_eq_ok, Except.mapM_eq_ok]

theorem checkType_eq_ok : checkType j = .ok s ↔
    ∃ type, (j = .string type ∧ isType type.toList = true) ∧ Text.strip type = s := by
  cases j with
  | string type => simp [checkType, Except.ite_eq_ok]
  | _ => simp [checkType]

theorem checkExpression_eq_ok : checkExpression kind j = .ok s ↔
    ∃ text, (j = .string text ∧ isExpression text.toList = true) ∧ Text.strip text = s := by
  cases j with
  | string text => simp [checkExpression, Except.ite_eq_ok]
  | _ => simp [checkExpression]

end Sql

/-! ## Columns -/

def Column.commentClauses (c : Column) : List String :=
  if c.comment.isTruthy then ["COMMENT " ++ quoteLiteral c.comment.text] else []

def Column.valueClauses (c : Column) : List String :=
  (c.defaultValue.map fun v => "DEFAULT " ++ quoteLiteral v).toList

/-- The clauses that follow the type of a column. -/
inductive Dialect.Clauses (c : Column) : Dialect → List String → Prop
  | mysql : Clauses c .mysql
      ((if c.nullable then [] else ["NOT NULL"]) ++ c.valueClauses ++ c.commentClauses)
  | hive : Clauses c .hive c.commentClauses
  | clickhouse {default codec ttl} (hd : Clickhouse.defaultClause c = .ok default)
      (hc : Clickhouse.codecClause c.codec = .ok codec) (ht : Clickhouse.ttlClause c.ttlExpr = .ok ttl) :
      Clauses c .clickhouse (default ++ c.commentClauses ++ codec ++ ttl)

/-- A column is written as its name, its type and its clauses. -/
structure Dialect.Defines (d : Dialect) (c : Column) (name type : String) (clauses : List String)
    (definition : String) : Prop where
  named : c.name = .string name
  isName : isName name.toList = true
  typed : checkType c.type = .ok type
  followed : d.Clauses c clauses
  written : definition = Text.join " " (quoted name :: type :: clauses)

theorem columnDefinition_eq_ok {d : Dialect} {c : Column} {definition : String}
    (h : d.columnDefinition c = .ok definition) :
    ∃ name type clauses, d.Defines c name type clauses definition := by
  cases d with
  | mysql =>
      simp only [Dialect.columnDefinition, Mysql.columnDefinition, Except.bind_eq_ok, Except.liftSink_eq_ok,
        quoteName_eq_ok, Except.pure_eq_ok] at h
      obtain ⟨_, ⟨name, ⟨hn, hi⟩, rfl⟩, type, ht, rfl⟩ := h
      exact ⟨name, type, _, hn, hi, ht, .mysql, by simp [Column.valueClauses, Column.commentClauses]⟩
  | hive =>
      simp only [Dialect.columnDefinition, Hive.columnDefinition, Except.bind_eq_ok, Except.liftSink_eq_ok,
        quoteName_eq_ok, Except.pure_eq_ok] at h
      obtain ⟨_, ⟨name, ⟨hn, hi⟩, rfl⟩, type, ht, rfl⟩ := h
      refine ⟨name, type, _, hn, hi, ht, .hive, ?_⟩
      unfold Column.commentClauses
      split
      · have hk : " COMMENT " = " " ++ "COMMENT " := rfl
        simp only [Text.join, String.append_assoc]
        rw [hk, String.append_assoc]
      · simp [Text.join]
  | clickhouse =>
      simp only [Dialect.columnDefinition, Clickhouse.columnDefinition, Except.bind_eq_ok,
        Except.liftSink_eq_ok, quoteName_eq_ok, Except.pure_eq_ok] at h
      obtain ⟨_, ⟨name, ⟨hn, hi⟩, rfl⟩, type, ht, default, hd, codec, hc, ttl, htt, rfl⟩ := h
      exact ⟨name, type, _, hn, hi, ht, .clickhouse hd hc htt, by simp [Column.commentClauses]⟩

/-! ## Tables -/

variable {t : Table} {sql : String}

/-- The columns in the first list of the statement that makes a table. -/
def Table.listedColumns (t : Table) : Dialect → List Column
  | .hive => t.columns.filter (!·.partition)
  | _ => t.columns

def Table.partitionColumns (t : Table) : Dialect → List Column
  | .hive => t.columns.filter (·.partition)
  | _ => []

def Table.commentAfter (t : Table) (keyword : String) : String :=
  if t.comment.isTruthy then keyword ++ quoteLiteral t.comment.text else ""

theorem Mysql.createTable_eq_ok (h : Mysql.createTable t = .ok sql) :
    ∃ columns key engine charset table,
      List.Forall₂ (fun c s => Mysql.columnDefinition c = .ok s) t.columns columns ∧
      Mysql.keyItems t.primaryKey = .ok key ∧
      checkExpression "table engine" (t.engine.orElse (.string Mysql.defaultEngine)) = .ok engine ∧
      checkExpression "charset" (t.charset.orElse (.string Mysql.defaultCharset)) = .ok charset ∧
      quoteTable t.database t.name = .ok table ∧
      sql = "CREATE TABLE IF NOT EXISTS " ++ table ++ " (\n    " ++ Text.join ",\n    " (columns ++ key) ++ "\n)"
        ++ " ENGINE=" ++ engine ++ " DEFAULT CHARSET=" ++ charset ++ t.commentAfter " COMMENT=" := by
  simp only [Mysql.createTable, Except.bind_eq_ok, Except.liftSink_eq_ok, Except.mapM_eq_ok,
    Except.pure_eq_ok] at h
  obtain ⟨columns, hc, key, hk, engine, he, charset, hs, table, ht, rfl⟩ := h
  exact ⟨columns, key, engine, charset, table, hc, hk, he, hs, ht, rfl⟩

theorem Hive.createTable_eq_ok (h : Hive.createTable t = .ok sql) :
    ∃ columns table partitions delimiter storage,
      List.Forall₂ (fun c s => Hive.columnDefinition c = .ok s) (t.columns.filter (!·.partition)) columns ∧
      quoteTable t.database t.name = .ok table ∧
      List.Forall₂ (fun c s => Hive.columnDefinition c = .ok s) (t.columns.filter (·.partition)) partitions ∧
      Hive.checkDelimiter (t.fieldDelimiter.orElse (.string Hive.defaultDelimiter)) = .ok delimiter ∧
      Hive.checkStorage t.storedAs = .ok storage ∧
      sql = "CREATE TABLE IF NOT EXISTS " ++ table ++ " (\n    " ++ Text.join ",\n    " columns ++ "\n)"
        ++ t.commentAfter "\nCOMMENT "
        ++ (if partitions.isEmpty then "" else "\nPARTITIONED BY (" ++ Text.join ", " partitions ++ ")")
        ++ "\nROW FORMAT DELIMITED FIELDS TERMINATED BY '" ++ delimiter ++ "'"
        ++ "\nSTORED AS " ++ storage := by
  simp only [Hive.createTable, Except.bind_eq_ok, Except.liftSink_eq_ok, Except.mapM_eq_ok,
    Except.pure_eq_ok] at h
  obtain ⟨columns, hc, table, ht, partitions, hp, delimiter, hd, storage, hs, rfl⟩ := h
  exact ⟨columns, table, partitions, delimiter, storage, hc, ht, hp, hd, hs, rfl⟩

theorem Clickhouse.retention_eq_ok {retained : List String × String} (h : Clickhouse.retention t = .ok retained) :
    t.ttl = none ∧ retained = ([], "") ∨
    ∃ ttl unit, t.ttl = some ttl ∧ 0 < ttl ∧ unit ∈ Clickhouse.ttlUnits ∧
      isName Clickhouse.retentionColumn.toList = true ∧
      retained = ([quoted Clickhouse.retentionColumn ++ " DateTime DEFAULT now()"],
        "\nTTL " ++ quoted Clickhouse.retentionColumn ++ " + INTERVAL " ++ Number.writeInt ttl ++ " " ++ unit) := by
  unfold Clickhouse.retention at h
  split at h
  · rename_i hn
    exact .inl ⟨hn, (Except.ok.inj h).symm⟩
  · rename_i ttl hs
    simp only [Except.bind_eq_ok, Except.liftShape_eq_ok] at h
    obtain ⟨unit, -, h⟩ := h
    split at h
    · simp only [Except.bind_eq_ok, Except.throw_ne_ok, false_and, exists_false] at h
    · rename_i hu
      simp only [Except.bind_eq_ok, Except.liftSink_eq_ok, Except.pure_eq_ok, quoteName_eq_ok] at h
      obtain ⟨_, ⟨name, ⟨hj, hn⟩, rfl⟩, rfl⟩ := h
      cases hj
      rw [Bool.or_eq_true, not_or] at hu
      exact .inr ⟨ttl, unit, hs, by simpa using hu.2, by simpa using hu.1, hn, rfl⟩

theorem Clickhouse.createTable_eq_ok (h : Clickhouse.createTable t = .ok sql) :
    ∃ columns retained table cluster engine partition order key,
      List.Forall₂ (fun c s => Clickhouse.columnDefinition c = .ok s) t.columns columns ∧
      Clickhouse.retention t = .ok retained ∧
      quoteTable t.database t.name = .ok table ∧
      Clickhouse.onCluster t.cluster = .ok cluster ∧
      checkExpression "table engine" (t.engine.orElse (.string Clickhouse.defaultEngine)) = .ok engine ∧
      Clickhouse.partitionClause t.partitionBy = .ok partition ∧
      Clickhouse.orderClause t.orderBy = .ok order ∧
      Clickhouse.keyClause t.primaryKey = .ok key ∧
      sql = "CREATE TABLE IF NOT EXISTS " ++ table ++ cluster
        ++ " (\n    " ++ Text.join ",\n    " (columns ++ retained.1) ++ "\n)"
        ++ "\nENGINE = " ++ engine ++ partition ++ order ++ key ++ retained.2 ++ t.commentAfter "\nCOMMENT " := by
  simp only [Clickhouse.createTable, Except.bind_eq_ok, Except.liftSink_eq_ok, Except.mapM_eq_ok,
    Except.pure_eq_ok] at h
  obtain ⟨columns, hc, retained, hr, table, ht, cluster, hl, engine, he, partition, hp, order, ho, key, hk, rfl⟩ := h
  exact ⟨columns, retained, table, cluster, engine, partition, order, key, hc, hr, ht, hl, he, hp, ho, hk, rfl⟩

/-! ## Statements that append columns -/

variable {columns : List Column} {statements : List String}

theorem Mysql.addColumns_eq_ok (h : Mysql.addColumns t columns = .ok statements) :
    ∃ table, quoteTable t.database t.name = .ok table ∧
      List.Forall₂ (fun c sql => ∃ definition, Mysql.columnDefinition c = .ok definition ∧
        "ALTER TABLE " ++ table ++ " ADD COLUMN " ++ definition = sql) columns statements := by
  simpa only [Mysql.addColumns, Except.bind_eq_ok, Except.liftSink_eq_ok, Except.mapM_eq_ok,
    Except.pure_eq_ok] using h

theorem Clickhouse.addColumns_eq_ok (h : Clickhouse.addColumns t columns = .ok statements) :
    ∃ table cluster, quoteTable t.database t.name = .ok table ∧ Clickhouse.onCluster t.cluster = .ok cluster ∧
      List.Forall₂ (fun c sql => ∃ definition, Clickhouse.columnDefinition c = .ok definition ∧
        "ALTER TABLE " ++ table ++ cluster ++ " ADD COLUMN " ++ definition = sql) columns statements := by
  simp only [Clickhouse.addColumns, Except.bind_eq_ok, Except.liftSink_eq_ok, Except.mapM_eq_ok,
    Except.pure_eq_ok] at h
  obtain ⟨table, ht, cluster, hl, hs⟩ := h
  exact ⟨table, cluster, ht, hl, hs⟩

theorem Hive.addColumns_eq_ok (h : Hive.addColumns t columns = .ok statements) :
    columns = [] ∧ statements = [] ∨
    columns ≠ [] ∧ ∃ definitions table,
      List.Forall₂ (fun c s => Hive.columnDefinition c = .ok s) columns definitions ∧
      quoteTable t.database t.name = .ok table ∧
      statements = ["ALTER TABLE " ++ table ++ " ADD COLUMNS (" ++ Text.join ", " definitions ++ ")"] := by
  simp only [Hive.addColumns, List.isEmpty_iff] at h
  split at h
  · rename_i hc
    exact .inl ⟨hc, (Except.pure_eq_ok.mp h).symm⟩
  · rename_i hc
    simp only [Except.bind_eq_ok, Except.liftSink_eq_ok, Except.mapM_eq_ok, Except.pure_eq_ok] at h
    obtain ⟨definitions, hd, table, ht, rfl⟩ := h
    exact .inr ⟨hc, definitions, table, hd, ht, rfl⟩

end SinkKeeper
