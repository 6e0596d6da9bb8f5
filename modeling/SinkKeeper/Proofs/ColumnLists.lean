import Mathlib.Data.List.TakeWhile
import SinkKeeper.Proofs.Closed
import SinkKeeper.Proofs.Items

/-!
# Columns in statements

The list of a statement that makes a table has one item for each column, and a statement that appends a column
does nothing else, exactly if the types of the columns are bracketed well. The check of a type does not see to
that: it looks at the characters of a type, not at the depth of its brackets.
-/

namespace SinkKeeper

open SinkKeeper.Sql

/-! ## Columns without expressions -/

/-- A column with no default, compression or lifetime expression. -/
structure Column.Bare (c : Column) : Prop where
  default : c.defaultExpr.isTruthy = false
  codec : c.codec.isTruthy = false
  ttl : c.ttlExpr.isTruthy = false

/-- The type of a column can stand in a list as a part of one item. -/
def Column.Fits (c : Column) : Prop := ∀ type, checkType c.type = .ok type → Contained type.toList

/-- The type of a column has no comma outside of everything. -/
def Column.Uncut (c : Column) : Prop := ∀ type, checkType c.type = .ok type → Sql.Uncut type.toList

variable {c : Column} {d : Dialect} {s name type : String} {clauses : List String}

theorem quiet_quoted (h : isName s.toList = true) : Quiet (quoted s).toList := by
  rw [toList_quoted]
  exact scan_name rfl (ne_backtick_of_isName h)

theorem quiet_literal {keyword : String} (h : Quiet keyword.toList) (s : String) :
    Quiet (keyword ++ quoteLiteral s).toList := by
  rw [String.toList_append]
  exact h.append (scan_quoteLiteral (fun _ => rfl) s)

theorem quiet_commentClauses (c : Column) : ∀ clause ∈ c.commentClauses, Quiet clause.toList := by
  unfold Column.commentClauses
  split
  · exact List.forall_mem_singleton.mpr (quiet_literal (by decide) _)
  · exact fun _ h => nomatch h

theorem quiet_valueClauses (c : Column) : ∀ clause ∈ c.valueClauses, Quiet clause.toList := by
  unfold Column.valueClauses
  cases c.defaultValue with
  | none => exact fun _ h => nomatch h
  | some v => exact List.forall_mem_singleton.mpr (quiet_literal (by decide) v)

theorem Clickhouse.defaultClause_of_bare (hb : c.Bare) : Clickhouse.defaultClause c = .ok c.valueClauses := by
  rw [Clickhouse.defaultClause, hb.default]
  rfl

theorem Clickhouse.codecClause_of_bare (hb : c.Bare) : Clickhouse.codecClause c.codec = .ok [] := by
  rw [Clickhouse.codecClause, hb.codec]
  rfl

theorem Clickhouse.ttlClause_of_bare (hb : c.Bare) : Clickhouse.ttlClause c.ttlExpr = .ok [] := by
  rw [Clickhouse.ttlClause, hb.ttl]
  rfl

theorem Dialect.Clauses.quiet (h : d.Clauses c clauses) (hb : c.Bare) : ∀ clause ∈ clauses, Quiet clause.toList := by
  cases h with
  | mysql =>
      intro clause hc
      rcases List.mem_append.mp hc with hc | hc
      · rcases List.mem_append.mp hc with hc | hc
        · cases hn : c.nullable with
          | true => simp [hn] at hc
          | false =>
              have hw : clause = "NOT NULL" := by simpa [hn] using hc
              rw [hw]
              decide
        · exact quiet_valueClauses c clause hc
      · exact quiet_commentClauses c clause hc
  | hive => exact quiet_commentClauses c
  | clickhouse hd hc ht =>
      rw [Clickhouse.defaultClause_of_bare hb] at hd
      rw [Clickhouse.codecClause_of_bare hb] at hc
      rw [Clickhouse.ttlClause_of_bare hb] at ht
      cases hd
      cases hc
      cases ht
      intro clause hm
      rw [List.append_nil, List.append_nil] at hm
      rcases List.mem_append.mp hm with hm | hm
      · exact quiet_valueClauses c clause hm
      · exact quiet_commentClauses c clause hm

/-! ## Definitions as items -/

def following (clauses : List String) : List Char := clauses.flatMap fun clause => ' ' :: clause.toList

theorem quiet_following (h : ∀ clause ∈ clauses, Quiet clause.toList) : Quiet (following clauses) := by
  induction clauses with
  | nil => rfl
  | cons clause clauses ih =>
      obtain ⟨hc, hrest⟩ := List.forall_mem_cons.mp h
      have hblank : Quiet [' '] := by decide
      have hb : Quiet (' ' :: clause.toList) := hblank.append hc
      rw [following, List.flatMap_cons]
      exact hb.append (ih hrest)

theorem toList_join_following (s : String) (clauses : List String) :
    (Text.join " " (s :: clauses)).toList = s.toList ++ following clauses := by
  induction clauses generalizing s with
  | nil => simp [Text.join, following]
  | cons clause clauses ih =>
      rw [toList_join_cons, ih, following, following, List.flatMap_cons, List.append_assoc]
      rfl

theorem Dialect.Defines.toList {definition : String} (h : d.Defines c name type clauses definition) :
    definition.toList = (quoted name).toList ++ [' '] ++ (type.toList ++ following clauses) := by
  rw [h.written, toList_join_cons, toList_join_following]
  rfl

theorem Dialect.Defines.quiet_name {definition : String} (h : d.Defines c name type clauses definition) :
    Quiet ((quoted name).toList ++ [' ']) := (quiet_quoted h.isName).append (by decide)

theorem Dialect.Defines.contained_iff {definition : String} (h : d.Defines c name type clauses definition)
    (hb : c.Bare) : Contained definition.toList ↔ Contained type.toList := by
  rw [h.toList]
  exact contained_between h.quiet_name (whole_type h.typed).scans (quiet_following (h.followed.quiet hb))

theorem fits_iff (h : checkType c.type = .ok type) : c.Fits ↔ Contained type.toList := Except.forall_eq_ok h

theorem contained_definitions_iff {columns : List Column} {definitions : List String}
    (h : List.Forall₂ (fun c s => d.columnDefinition c = .ok s) columns definitions) (hb : ∀ c ∈ columns, c.Bare) :
    (∀ s ∈ definitions, Contained s.toList) ↔ ∀ c ∈ columns, c.Fits := by
  induction h with
  | nil => simp
  | cons hd _ ih =>
      obtain ⟨hc, hrest⟩ := List.forall_mem_cons.mp hb
      obtain ⟨name, type, clauses, hn⟩ := columnDefinition_eq_ok hd
      rw [List.forall_mem_cons, List.forall_mem_cons, ih hrest, hn.contained_iff hc, fits_iff hn.typed]

theorem nonBlanks_definition {definition : String} (h : d.columnDefinition c = .ok definition) :
    nonBlanks definition.toList ≠ 0 := by
  obtain ⟨name, type, clauses, hn⟩ := columnDefinition_eq_ok h
  rw [hn.toList, toList_quoted, List.cons_append, List.cons_append, nonBlanks_cons (by decide)]
  exact Nat.succ_ne_zero _

theorem nonBlanks_definitions {columns : List Column} {definitions : List String}
    (h : List.Forall₂ (fun c s => d.columnDefinition c = .ok s) columns definitions) :
    ∀ s ∈ definitions, nonBlanks s.toList ≠ 0 := by
  induction h with
  | nil => exact fun _ hs => absurd hs List.not_mem_nil
  | cons hd _ ih => exact List.forall_mem_cons.mpr ⟨nonBlanks_definition hd, ih⟩

/-! ## Items that are no columns -/

/-- The items of a table's list that stand after its columns: the primary key or the retention column. -/
def Table.extraItems (t : Table) : Dialect → Except Failure (List String)
  | .mysql => Mysql.keyItems t.primaryKey
  | .hive => .ok []
  | .clickhouse => (Clickhouse.retention t).map (·.1)

theorem within_quoteNames {kind : String} {names : List Json} (h : quoteNames kind names = .ok s) :
    within ⟨.outside, 1⟩ s.toList = some ⟨.outside, 1⟩ := by
  obtain ⟨quotes, hq, rfl⟩ := quoteNames_eq_ok.mp h
  clear h
  induction hq with
  | nil => rfl
  | @cons _ quote _ more hn hrest ih =>
      obtain ⟨name, ⟨-, hi⟩, rfl⟩ := quoteName_eq_ok.mp hn
      cases hrest with
      | nil => exact (quiet_quoted hi).within 1
      | cons =>
          have hcomma : within ⟨.outside, 1⟩ ", ".toList = some ⟨.outside, 1⟩ := by decide
          rw [toList_join_cons, within_append, within_append, (quiet_quoted hi).within 1, Option.bind_some, hcomma,
            Option.bind_some, ih]

variable {t : Table} {extra : List String}

theorem Table.extraItems_contained (h : t.extraItems d = .ok extra) :
    ∀ item ∈ extra, Contained item.toList ∧ nonBlanks item.toList ≠ 0 := by
  cases d with
  | mysql =>
      rw [Table.extraItems, Except.liftSink_eq_ok, Mysql.keyItems] at h
      split at h
      · cases h
        exact fun _ hi => absurd hi List.not_mem_nil
      · obtain ⟨names, hn, rfl⟩ := Except.map_eq_ok.mp h
        refine List.forall_mem_singleton.mpr ⟨?_, ?_⟩
        · have hopen : within .top "PRIMARY KEY (".toList = some ⟨.outside, 1⟩ := by decide
          rw [Contained, String.toList_append, String.toList_append, within_append, within_append, hopen,
            Option.bind_some, within_quoteNames hn]
          rfl
        · have hn : nonBlanks "PRIMARY KEY (".toList ≠ 0 := by decide
          rw [String.toList_append, String.toList_append, nonBlanks_append, nonBlanks_append]
          omega
  | hive =>
      cases h
      exact fun _ hi => absurd hi List.not_mem_nil
  | clickhouse =>
      obtain ⟨retained, hr, rfl⟩ := Except.map_eq_ok.mp h
      obtain ⟨-, rfl⟩ | ⟨_, _, -, -, -, hname, rfl⟩ := Clickhouse.retention_eq_ok hr
      · exact fun _ hi => absurd hi List.not_mem_nil
      · refine List.forall_mem_singleton.mpr ⟨?_, ?_⟩
        · rw [String.toList_append]
          exact (quiet_quoted hname).contained.append (by decide)
        · rw [String.toList_append, toList_quoted, List.cons_append, nonBlanks_cons (by decide)]
          exact Nat.succ_ne_zero _

/-! ## Lists of tables -/

theorem quiet_quoteTable {database table : Json} (h : quoteTable database table = .ok s) : Quiet s.toList := by
  obtain ⟨db, ⟨-, hd⟩, name, ⟨-, ht⟩, rfl⟩ := quoteTable_eq_ok.mp h
  rw [String.toList_append, String.toList_append]
  exact ((quiet_quoted hd).append (by decide)).append (quiet_quoted ht)

theorem Clickhouse.quiet_onCluster {cluster : Json} (h : Clickhouse.onCluster cluster = .ok s) : Quiet s.toList := by
  unfold Clickhouse.onCluster at h
  split at h
  · obtain ⟨quote, hq, rfl⟩ := Except.map_eq_ok.mp h
    obtain ⟨name, ⟨-, hn⟩, rfl⟩ := quoteName_eq_ok.mp hq
    rw [String.toList_append]
    exact Quiet.append (by decide) (quiet_quoted hn)
  · cases h
    decide

theorem quiet_commentAfter {keyword : String} (h : Quiet keyword.toList) (t : Table) :
    Quiet (t.commentAfter keyword).toList := by
  unfold Table.commentAfter
  split
  · exact quiet_literal h _
  · decide

def columnList (head : List Char) (parts : List String) (rest : List Char) : List Char :=
  listed head "\n    ".toList ",\n    " parts ['\n'] rest

/-- The statement that makes a table has a list of its columns and its extra items, and then perhaps a list of
the columns by which it is partitioned. -/
theorem createTable_lists {sql : String} (h : d.createTable t = .ok sql) :
    ∃ head definitions extra rest, Quiet head ∧
      List.Forall₂ (fun c s => d.columnDefinition c = .ok s) (t.listedColumns d) definitions ∧
      t.extraItems d = .ok extra ∧ sql.toList = columnList head (definitions ++ extra) rest ∧
      ∃ partitions, List.Forall₂ (fun c s => d.columnDefinition c = .ok s) (t.partitionColumns d) partitions ∧
        (partitions ≠ [] → ∃ head' rest', Quiet head' ∧ rest = listed head' [] ", " partitions [] rest') := by
  have hhead : ∀ {table cluster : String}, quoteTable t.database t.name = .ok table → Quiet cluster.toList →
      Quiet (("CREATE TABLE IF NOT EXISTS " ++ table ++ cluster).toList ++ [' ']) := by
    intro table cluster ht hl
    rw [String.toList_append, String.toList_append]
    exact ((Quiet.append (by decide) (quiet_quoteTable ht)).append hl).append (by decide)
  cases d with
  | mysql =>
      obtain ⟨columns, key, engine, charset, table, hc, hk, -, -, ht, rfl⟩ := Mysql.createTable_eq_ok h
      refine ⟨("CREATE TABLE IF NOT EXISTS " ++ table ++ "").toList ++ [' '], columns, key,
        (" ENGINE=" ++ engine ++ " DEFAULT CHARSET=" ++ charset ++ t.commentAfter " COMMENT=").toList,
        hhead ht (by decide), hc, Except.liftSink_eq_ok.mpr hk, ?_, [], .nil, fun hp => absurd rfl hp⟩
      simp only [columnList, listed, String.toList_append, List.append_assoc]
      rfl
  | hive =>
      obtain ⟨columns, table, partitions, delimiter, storage, hc, ht, hp, -, -, rfl⟩ := Hive.createTable_eq_ok h
      refine ⟨("CREATE TABLE IF NOT EXISTS " ++ table ++ "").toList ++ [' '], columns, [],
        (t.commentAfter "\nCOMMENT " ++ (if partitions.isEmpty then "" else
          "\nPARTITIONED BY (" ++ Text.join ", " partitions ++ ")")
        ++ "\nROW FORMAT DELIMITED FIELDS TERMINATED BY '" ++ delimiter ++ "'" ++ "\nSTORED AS " ++ storage).toList,
        hhead ht (by decide), hc, rfl, ?_, partitions, hp, fun hne => ?_⟩
      · simp only [columnList, listed, String.toList_append, List.append_assoc, List.append_nil]
        rfl
      · refine ⟨(t.commentAfter "\nCOMMENT ").toList ++ "\nPARTITIONED BY ".toList,
          ("\nROW FORMAT DELIMITED FIELDS TERMINATED BY '" ++ delimiter ++ "'" ++ "\nSTORED AS " ++ storage).toList,
          (quiet_commentAfter (by decide) t).append (by decide), ?_⟩
        rw [if_neg (by simpa using hne)]
        simp only [listed, String.toList_append, List.append_assoc]
        rfl
  | clickhouse =>
      obtain ⟨columns, retained, table, cluster, engine, partition, order, key, hc, hr, ht, hl, -, -, -, -, rfl⟩ :=
        Clickhouse.createTable_eq_ok h
      refine ⟨("CREATE TABLE IF NOT EXISTS " ++ table ++ cluster).toList ++ [' '], columns, retained.1,
        ("\nENGINE = " ++ engine ++ partition ++ order ++ key ++ retained.2 ++ t.commentAfter "\nCOMMENT ").toList,
        hhead ht (Clickhouse.quiet_onCluster hl), hc, ?_, ?_, [], .nil, fun hp => absurd rfl hp⟩
      · exact Except.map_eq_ok.mpr ⟨retained, hr, rfl⟩
      · simp only [columnList, listed, String.toList_append, List.append_assoc]
        rfl

/-- The definitions of columns, each of which begins with the name of its column. -/
def Dialect.Definitions (d : Dialect) (columns : List Column) (definitions : List String) : Prop :=
  List.Forall₂ (fun c s => d.columnDefinition c = .ok s ∧
    ∃ name, c.name = .string name ∧ (quoted name).toList <+: s.toList) columns definitions

/-- The lists of a statement that makes a table hold the definitions of the columns, in order and nothing else
but the extra items after them. -/
def Dialect.Lists (d : Dialect) (t : Table) (sql : String) : Prop :=
  ∃ definitions extra rest, d.Definitions (t.listedColumns d) definitions ∧ t.extraItems d = .ok extra ∧
    listIn sql.toList = some ((definitions ++ extra).map Text.strip, rest) ∧
    (t.partitionColumns d ≠ [] → ∃ definitions rest', d.Definitions (t.partitionColumns d) definitions ∧
      listIn rest = some (definitions.map Text.strip, rest'))

theorem definitions_iff {columns : List Column} {definitions : List String} :
    d.Definitions columns definitions ↔
      List.Forall₂ (fun c s => d.columnDefinition c = .ok s) columns definitions := by
  constructor
  · exact fun h => h.imp fun _ _ hd => hd.1
  · refine fun h => h.imp fun c s hd => ⟨hd, ?_⟩
    obtain ⟨name, type, clauses, hn⟩ := columnDefinition_eq_ok hd
    refine ⟨name, hn.named, ?_⟩
    rw [hn.toList, List.append_assoc]
    exact List.prefix_append _ _

theorem definitions_unique {columns : List Column} {definitions definitions' : List String}
    (h : List.Forall₂ (fun c s => d.columnDefinition c = .ok s) columns definitions)
    (h' : d.Definitions columns definitions') : definitions' = definitions :=
  Except.ok.inj ((Except.mapM_eq_ok.mpr (definitions_iff.mp h')).symm.trans (Except.mapM_eq_ok.mpr h))

theorem Table.forall_columns {p : Column → Prop} (d : Dialect) :
    (∀ c ∈ t.columns, p c) ↔ (∀ c ∈ t.listedColumns d, p c) ∧ ∀ c ∈ t.partitionColumns d, p c := by
  cases d with
  | hive =>
      constructor
      · intro h
        exact ⟨fun c hc => h c (List.mem_of_mem_filter hc), fun c hc => h c (List.mem_of_mem_filter hc)⟩
      · rintro ⟨hl, hp⟩ c hc
        cases hpart : c.partition with
        | true => exact hp c (List.mem_filter.mpr ⟨hc, hpart⟩)
        | false => exact hl c (List.mem_filter.mpr ⟨hc, by simp [hpart]⟩)
  | mysql => simp [Table.listedColumns, Table.partitionColumns]
  | clickhouse => simp [Table.listedColumns, Table.partitionColumns]

theorem listIn_definitions_iff {columns : List Column} {definitions : List String} {head rest : List Char}
    (hq : Quiet head) (h : List.Forall₂ (fun c s => d.columnDefinition c = .ok s) columns definitions) :
    (∃ definitions' rest', d.Definitions columns definitions' ∧
      listIn (listed head [] ", " definitions [] rest) = some (definitions'.map Text.strip, rest')) ↔
      ∀ s ∈ definitions, Contained s.toList := by
  have hnil : ∀ c ∈ ([] : List Char), Text.isBlank c = true := fun _ h => absurd h List.not_mem_nil
  have hspace : ∀ c ∈ [' '], Text.isBlank c = true := List.all_eq_true.mp (by decide)
  constructor
  · rintro ⟨definitions', rest', hd, hl⟩
    cases definitions_unique h hd
    exact contained_of_listIn hq hnil rfl hspace hnil hl
  · intro hc
    exact ⟨definitions, rest, definitions_iff.mpr h,
      listIn_of_contained hq hnil rfl hspace hnil (nonBlanks_definitions h) hc⟩

theorem createTable_lists_iff {sql : String} (h : d.createTable t = .ok sql) (hb : ∀ c ∈ t.columns, c.Bare) :
    d.Lists t sql ↔ ∀ c ∈ t.columns, c.Fits := by
  obtain ⟨head, definitions, extra, rest, hq, hd, he, hsql, partitions, hp, hrest⟩ := createTable_lists h
  obtain ⟨hbl, hbp⟩ := (Table.forall_columns d).mp hb
  have hextra := Table.extraItems_contained he
  have hgap : ∀ c ∈ "\n    ".toList, Text.isBlank c = true := List.all_eq_true.mp (by decide)
  have htrail : ∀ c ∈ ['\n'], Text.isBlank c = true := List.all_eq_true.mp (by decide)
  have hread : (∀ s ∈ definitions, Contained s.toList) →
      listIn sql.toList = some ((definitions ++ extra).map Text.strip, rest) := by
    intro hc
    rw [hsql]
    refine listIn_of_contained hq hgap rfl hgap htrail ?_ ?_
    · exact List.forall_mem_append.mpr ⟨nonBlanks_definitions hd, fun item hi => (hextra item hi).2⟩
    · exact List.forall_mem_append.mpr ⟨hc, fun item hi => (hextra item hi).1⟩
  -- There is a second list only if there are columns for it.
  have hparts : (t.partitionColumns d ≠ [] → ∃ definitions rest', d.Definitions (t.partitionColumns d) definitions ∧
      listIn rest = some (definitions.map Text.strip, rest')) ↔ ∀ s ∈ partitions, Contained s.toList := by
    by_cases hne : t.partitionColumns d = []
    · rw [hne, List.forall₂_nil_left_iff] at hp
      simp [hp, hne]
    · have hpne : partitions ≠ [] := by
        rintro rfl
        exact hne (List.forall₂_nil_right_iff.mp hp)
      obtain ⟨head', rest', hq', rfl⟩ := hrest hpne
      rw [← listIn_definitions_iff hq' hp, forall_prop_of_true hne]
  rw [Table.forall_columns d, ← contained_definitions_iff hd hbl, ← contained_definitions_iff hp hbp, ← hparts]
  constructor
  · rintro ⟨definitions', extra', rest', hd', he', hl, hpl⟩
    cases definitions_unique hd hd'
    cases he.symm.trans he'
    have hc : ∀ s ∈ definitions, Contained s.toList := by
      have hl' := hl
      rw [hsql] at hl'
      exact (List.forall_mem_append.mp (contained_of_listIn hq hgap rfl hgap htrail hl')).1
    -- The list was read to its end, so what follows it is where the builder put the second one.
    cases (hread hc).symm.trans hl
    exact ⟨hc, hpl⟩
  · rintro ⟨hc, hpl⟩
    exact ⟨definitions, extra, rest, definitions_iff.mpr hd, he, hread hc, hpl⟩

/-! ## Statements that append columns -/

def Table.clusterClause (t : Table) : Dialect → Except SinkError String
  | .clickhouse => Clickhouse.onCluster t.cluster
  | _ => .ok ""

/-- A statement appends columns and does nothing else: its list holds their definitions, or it has one action. -/
def Dialect.Appends (t : Table) (batch : List Column) (sql : String) : Dialect → Prop
  | .hive => ∃ definitions rest, Dialect.hive.Definitions batch definitions ∧
      listIn sql.toList = some (definitions.map Text.strip, rest)
  | d => ∃ table cluster definition, quoteTable t.database t.name = .ok table ∧
      t.clusterClause d = .ok cluster ∧ d.Definitions batch [definition] ∧
      sql = "ALTER TABLE " ++ table ++ (cluster ++ " ADD COLUMN " ++ definition) ∧
      actions (cluster ++ " ADD COLUMN " ++ definition) = [cluster ++ " ADD COLUMN " ++ definition]

/-- What the type of a column must be like for a statement that appends the column. -/
def Column.FitsAppended (c : Column) : Dialect → Prop
  | .hive => c.Fits
  | _ => c.Uncut

theorem actions_eq_iff {action : String} : actions action = [action] ↔ Sql.Uncut action.toList := by
  unfold Sql.Uncut actions
  constructor
  · intro h
    have hl := congrArg (List.map String.toList) h
    simpa [Function.comp_def] using hl
  · intro h
    rw [h]
    simp

theorem uncut_column_iff (h : checkType c.type = .ok type) : c.Uncut ↔ Sql.Uncut type.toList :=
  Except.forall_eq_ok h

theorem actions_definition_iff {cluster definition : String} (hl : Quiet cluster.toList)
    (h : d.columnDefinition c = .ok definition) (hb : c.Bare) :
    actions (cluster ++ " ADD COLUMN " ++ definition) = [cluster ++ " ADD COLUMN " ++ definition] ↔ c.Uncut := by
  obtain ⟨name, type, clauses, hn⟩ := columnDefinition_eq_ok h
  have hstart : Quiet (cluster.toList ++ " ADD COLUMN ".toList ++ ((quoted name).toList ++ [' '])) :=
    (hl.append (by decide)).append hn.quiet_name
  rw [actions_eq_iff, uncut_column_iff hn.typed, String.toList_append, String.toList_append, hn.toList,
    ← List.append_assoc]
  exact uncut_between hstart (whole_type hn.typed).scans (quiet_following (hn.followed.quiet hb))

theorem Dialect.appends_iff {batch : List Column} {sql : String} (h : d ≠ .hive) : d.Appends t batch sql ↔
    ∃ table cluster definition, quoteTable t.database t.name = .ok table ∧
      t.clusterClause d = .ok cluster ∧ d.Definitions batch [definition] ∧
      sql = "ALTER TABLE " ++ table ++ (cluster ++ " ADD COLUMN " ++ definition) ∧
      actions (cluster ++ " ADD COLUMN " ++ definition) = [cluster ++ " ADD COLUMN " ++ definition] := by
  cases d with
  | hive => exact absurd rfl h
  | mysql => exact Iff.rfl
  | clickhouse => exact Iff.rfl

theorem alters_iff {columns : List Column} {statements : List String} {table cluster : String} (hd : d ≠ .hive)
    (ht : quoteTable t.database t.name = .ok table) (hl : t.clusterClause d = .ok cluster)
    (hq : Quiet cluster.toList)
    (h : List.Forall₂ (fun c sql => ∃ definition, d.columnDefinition c = .ok definition ∧
      "ALTER TABLE " ++ table ++ cluster ++ " ADD COLUMN " ++ definition = sql) columns statements)
    (hb : ∀ c ∈ columns, c.Bare) :
    List.Forall₂ (fun batch sql => d.Appends t batch sql) (columns.map ([·])) statements ↔
      ∀ c ∈ columns, c.Uncut := by
  have hone : ∀ {c sql definition}, c.Bare → d.columnDefinition c = .ok definition →
      "ALTER TABLE " ++ table ++ cluster ++ " ADD COLUMN " ++ definition = sql →
      (d.Appends t [c] sql ↔ c.Uncut) := by
    rintro c sql definition hb hdef rfl
    rw [← actions_definition_iff hq hdef hb, Dialect.appends_iff hd]
    constructor
    · rintro ⟨table', cluster', definition', -, hl', hdef', -, ha⟩
      cases hl.symm.trans hl'
      cases definitions_unique (.cons hdef .nil) hdef'
      exact ha
    · intro ha
      exact ⟨table, cluster, definition, ht, hl, definitions_iff.mpr (.cons hdef .nil),
        by simp only [String.append_assoc], ha⟩
  induction h with
  | nil => simp
  | cons hs _ ih =>
      obtain ⟨definition, hdef, hsql⟩ := hs
      obtain ⟨hc, hrest⟩ := List.forall_mem_cons.mp hb
      rw [List.map_cons, List.forall₂_cons, List.forall_mem_cons]
      exact and_congr (hone hc hdef hsql) (ih hrest)

theorem addColumns_appends_iff {columns : List Column} {statements : List String}
    (h : d.addColumns t columns = .ok statements) (hb : ∀ c ∈ columns, c.Bare) :
    List.Forall₂ (fun batch sql => d.Appends t batch sql) (d.batches columns) statements ↔
      ∀ c ∈ columns, c.FitsAppended d := by
  cases d with
  | mysql =>
      obtain ⟨table, ht, hs⟩ := Mysql.addColumns_eq_ok h
      refine alters_iff (d := .mysql) (by decide) ht rfl (by decide) ?_ hb
      simp only [String.append_empty]
      exact hs
  | clickhouse =>
      obtain ⟨table, cluster, ht, hl, hs⟩ := Clickhouse.addColumns_eq_ok h
      exact alters_iff (d := .clickhouse) (by decide) ht hl (Clickhouse.quiet_onCluster hl) hs hb
  | hive =>
      obtain ⟨rfl, rfl⟩ | ⟨hne, definitions, table, hd, ht, rfl⟩ := Hive.addColumns_eq_ok h
      · simp [Dialect.batches]
      · have hbatches : Dialect.batches columns .hive = [columns] := by simp [Dialect.batches, hne]
        have hhead : Quiet ("ALTER TABLE " ++ table ++ " ADD COLUMNS ").toList := by
          rw [String.toList_append, String.toList_append]
          exact (Quiet.append (by decide) (quiet_quoteTable ht)).append (by decide)
        have hsql : ("ALTER TABLE " ++ table ++ " ADD COLUMNS (" ++ Text.join ", " definitions ++ ")").toList
            = listed ("ALTER TABLE " ++ table ++ " ADD COLUMNS ").toList [] ", " definitions [] [] := by
          simp only [listed, String.toList_append, List.append_assoc]
          rfl
        rw [hbatches, List.forall₂_cons, and_iff_left .nil]
        refine Iff.trans ?_ (contained_definitions_iff (d := .hive) hd hb)
        rw [Dialect.Appends, hsql]
        exact listIn_definitions_iff (d := .hive) hhead hd

/-! ## Types that fit -/

/-- A text closes the first of its brackets only at its end. -/
def ClosesLast (cs : List Char) : Prop :=
  (cs.foldl Spot.next .top).depth = 0 ∧
    ∀ before after, cs = before ++ after → after ≠ [] → (∃ c ∈ before, c = '(' ∨ c = '<') →
      0 < (before.foldl Spot.next .top).depth

theorem not_isTypeHeadChar {c : Char} (h : c = ',' ∨ closes c = true) : isTypeHeadChar c = false := by
  rcases h with rfl | h
  · decide
  · have hc : c = ')' ∨ c = '>' := by simpa [closes] using h
    rcases hc with rfl | rfl <;> decide

theorem opened_of_dropWhile {before after body : List Char} {c opening : Char} (hc : c = ',' ∨ closes c = true)
    (h : (before ++ c :: after).dropWhile isTypeHeadChar = opening :: body) (ho : opening = '(' ∨ opening = '<') :
    ∃ b ∈ before, b = '(' ∨ b = '<' := by
  induction before with
  | nil =>
      rw [List.nil_append, List.dropWhile_cons_of_neg (by rw [not_isTypeHeadChar hc]; simp)] at h
      obtain ⟨rfl, -⟩ := List.cons.inj h
      rcases ho with rfl | rfl <;> exact absurd hc (by decide)
  | cons b before ih =>
      by_cases hb : isTypeHeadChar b = true
      · rw [List.cons_append, List.dropWhile_cons_of_pos hb] at h
        obtain ⟨b', hm, hb'⟩ := ih h
        exact ⟨b', List.mem_cons_of_mem b hm, hb'⟩
      · rw [List.cons_append, List.dropWhile_cons_of_neg hb] at h
        obtain ⟨rfl, -⟩ := List.cons.inj h
        exact ⟨b, List.mem_cons_self, ho⟩

theorem opened_of_isTypeText {before after : List Char} {c : Char} (h : isTypeText (before ++ c :: after) = true)
    (hc : c = ',' ∨ closes c = true) : ∃ b ∈ before, b = '(' ∨ b = '<' := by
  cases before with
  | nil =>
      rw [List.nil_append, isTypeText, Bool.and_eq_true] at h
      have hw : isTypeHeadChar c = true := by simp [isTypeHeadChar, isWordChar, h.1]
      rw [not_isTypeHeadChar hc] at hw
      cases hw
  | cons x before =>
      rw [List.cons_append, isTypeText, Bool.and_eq_true] at h
      have hd := h.2
      cases htail : (before ++ c :: after).dropWhile isTypeHeadChar with
      | nil =>
          have hm := List.dropWhile_eq_nil_iff.mp htail c (by simp)
          rw [not_isTypeHeadChar hc] at hm
          cases hm
      | cons opening body =>
          rw [htail] at hd
          have ho : opening = '(' ∨ opening = '<' := by
            simp only [Bool.and_eq_true, Bool.or_eq_true, decide_eq_true_eq] at hd
            exact hd.1.1
          obtain ⟨b, hm, hb⟩ := opened_of_dropWhile hc htail ho
          exact ⟨b, List.mem_cons_of_mem x hm, hb⟩

theorem contained_of_closesLast {cs : List Char} (ht : isTypeText cs = true)
    (hs : scan breaks .outside cs = some .outside) (h : ClosesLast cs) : Contained cs := by
  cases hw : within .top cs with
  | none =>
      -- The type ends an item at depth zero, though a bracket is open since before.
      obtain ⟨before, c, after, rfl, htop, hc⟩ := exists_of_within_eq_none hw
      have hpos := h.2 before (c :: after) rfl (List.cons_ne_nil c after) (opened_of_isTypeText ht hc)
      rw [htop] at hpos
      exact absurd hpos (by decide)
  | some spot =>
      obtain ⟨-, hf⟩ := uncut_of_within hw
      have hspot : cs.foldl Spot.next .top = ⟨.outside, 0⟩ := by rw [foldl_of_scan hs, h.1]
      rw [Contained, hw, ← hf, hspot]
      rfl

theorem fits_of_closesLast (h : checkType c.type = .ok type) (hl : ClosesLast type.toList) :
    c.Fits ∧ ∀ d, c.FitsAppended d := by
  have hc : Contained type.toList := by
    obtain ⟨text, ⟨-, ht⟩, rfl⟩ := checkType_eq_ok.mp h
    simp only [isType, Bool.and_eq_true] at ht
    have htext : isTypeText (Text.strip text).toList = true := by
      rw [Text.strip, String.toList_ofList]
      exact ht.1.1
    exact contained_of_closesLast htext (whole_type h).scans hl
  have hfits : c.Fits := (fits_iff h).mpr hc
  have huncut : c.Uncut := (uncut_column_iff h).mpr (uncut_iff.mpr (uncut_of_within hc).1)
  refine ⟨hfits, fun d => ?_⟩
  cases d with
  | hive => exact hfits
  | mysql => exact huncut
  | clickhouse => exact huncut

/-! ## Columns are kept apart -/

/-- For columns without expressions: the list of a table's statement holds one item for each column exactly if
all types fit, a statement that appends columns does nothing else exactly if its types fit there, and types
whose first bracket is closed only at the end do. -/
theorem columns_apart_iff (d : Dialect) :
    (∀ t sql, d.createTable t = .ok sql → (∀ c ∈ t.columns, c.Bare) →
      (d.Lists t sql ↔ ∀ c ∈ t.columns, c.Fits)) ∧
    (∀ t columns statements, d.addColumns t columns = .ok statements → (∀ c ∈ columns, c.Bare) →
      (List.Forall₂ (fun batch sql => d.Appends t batch sql) (d.batches columns) statements ↔
        ∀ c ∈ columns, c.FitsAppended d)) ∧
    (∀ (c : Column) type, checkType c.type = .ok type → ClosesLast type.toList → c.Fits ∧ c.FitsAppended d) :=
  ⟨fun _ _ => createTable_lists_iff, fun _ _ _ => addColumns_appends_iff,
    fun _ _ h hl => ⟨(fits_of_closesLast h hl).1, (fits_of_closesLast h hl).2 d⟩⟩

theorem hostileTable_lists : (∀ c ∈ hostileTable.columns, c.Bare) ∧
    ∃ sql, Dialect.createTable hostileTable .mysql = .ok sql ∧ Dialect.mysql.Lists hostileTable sql := by
  have hb : ∀ c ∈ hostileTable.columns, c.Bare := List.forall_mem_singleton.mpr ⟨rfl, rfl, rfl⟩
  have hf : ∀ c ∈ hostileTable.columns, c.Fits := by
    have hc : checkType (.string "VARCHAR(5)") = .ok "VARCHAR(5)" := by rfl
    exact List.forall_mem_singleton.mpr ((fits_iff hc).mpr (by decide))
  exact ⟨hb, _, rfl, ((columns_apart_iff .mysql).1 hostileTable _ rfl hb).mpr hf⟩

/-- A column whose type goes on with actions of its own. -/
def smuggler : Column := .plain "a" "INT(1), DROP COLUMN b, ADD COLUMN c INT(1)"

/-- The type passes its check, and the statement that appends the column drops another one. -/
theorem smuggler_drops_column : smuggler.Bare ∧
    Dialect.addColumns hostileTable [smuggler] .mysql =
      .ok ["ALTER TABLE `db`.`t` ADD COLUMN `a` INT(1), DROP COLUMN b, ADD COLUMN c INT(1)"] ∧
    actions " ADD COLUMN `a` INT(1), DROP COLUMN b, ADD COLUMN c INT(1)" =
      [" ADD COLUMN `a` INT(1)", " DROP COLUMN b", " ADD COLUMN c INT(1)"] ∧
    ¬List.Forall₂ (fun batch sql => Dialect.mysql.Appends hostileTable batch sql)
      (Dialect.mysql.batches [smuggler])
      ["ALTER TABLE `db`.`t` ADD COLUMN `a` INT(1), DROP COLUMN b, ADD COLUMN c INT(1)"] := by
  have hb : smuggler.Bare := ⟨rfl, rfl, rfl⟩
  have hadd : Dialect.addColumns hostileTable [smuggler] .mysql =
      .ok ["ALTER TABLE `db`.`t` ADD COLUMN `a` INT(1), DROP COLUMN b, ADD COLUMN c INT(1)"] := by rfl
  refine ⟨hb, hadd, by decide, fun hall => ?_⟩
  have hu := (addColumns_appends_iff hadd (List.forall_mem_singleton.mpr hb)).mp hall smuggler List.mem_cons_self
  have hc : checkType smuggler.type = .ok "INT(1), DROP COLUMN b, ADD COLUMN c INT(1)" := by rfl
  exact absurd (hu _ hc) (by decide)

end SinkKeeper
