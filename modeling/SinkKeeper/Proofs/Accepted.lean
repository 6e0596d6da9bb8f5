import SinkKeeper.Proofs.Honest

/-!
# Accepted tables

The statement that makes a table passes every check that the other builders make, so a table that it accepts
gets its database, its queries and the statements for its columns too.
-/

namespace SinkKeeper

open SinkKeeper.Sql

variable {ε α β : Type} {d : Dialect} {t : Table} {sql : String}

/-- What the other builders need of a table. -/
structure Dialect.Accepts (d : Dialect) (t : Table) : Prop where
  database : ∃ name, t.database = .string name ∧ isName name.toList = true
  table : ∃ name, t.name = .string name ∧ isName name.toList = true
  columns : ∀ c ∈ t.columns, ∃ definition, d.columnDefinition c = .ok definition
  cluster : d = .clickhouse → ∃ clause, Clickhouse.onCluster t.cluster = .ok clause

/-! ## The statement that makes a table -/

theorem exists_of_forall₂ {R : α → β → Prop} {xs : List α} {ys : List β} (h : List.Forall₂ R xs ys) :
    ∀ x ∈ xs, ∃ y, R x y :=
  (List.forall₂_and_left xs ys).mp (h.imp fun _ y hr => ⟨⟨y, hr⟩, hr⟩) |>.1

theorem Dialect.Accepts.of_createTable (h : d.createTable t = .ok sql) : d.Accepts t := by
  cases d with
  | mysql =>
      obtain ⟨_, _, _, _, _, hc, -, -, -, ht, -⟩ := Mysql.createTable_eq_ok h
      obtain ⟨database, hdb, table, htb, -⟩ := quoteTable_eq_ok.mp ht
      exact ⟨⟨database, hdb⟩, ⟨table, htb⟩, exists_of_forall₂ hc, fun hd => nomatch hd⟩
  | hive =>
      obtain ⟨_, _, _, _, _, hc, ht, hp, -⟩ := Hive.createTable_eq_ok h
      obtain ⟨database, hdb, table, htb, -⟩ := quoteTable_eq_ok.mp ht
      -- Every column is defined, in the one list of the statement or in the other.
      refine ⟨⟨database, hdb⟩, ⟨table, htb⟩, fun c hm => ?_, fun hd => nomatch hd⟩
      cases hpart : c.partition with
      | false => exact exists_of_forall₂ hc c (List.mem_filter.mpr ⟨hm, by rw [hpart]; rfl⟩)
      | true => exact exists_of_forall₂ hp c (List.mem_filter.mpr ⟨hm, hpart⟩)
  | clickhouse =>
      obtain ⟨_, _, _, cluster, _, _, _, _, hc, -, ht, hl, -⟩ := Clickhouse.createTable_eq_ok h
      obtain ⟨database, hdb, table, htb, -⟩ := quoteTable_eq_ok.mp ht
      exact ⟨⟨database, hdb⟩, ⟨table, htb⟩, exists_of_forall₂ hc, fun _ => ⟨cluster, hl⟩⟩

/-! ## The other builders -/

section Builders

variable (h : d.Accepts t)

include h

theorem Dialect.Accepts.named : t.Named := by
  intro c hc
  obtain ⟨_, hdef⟩ := h.columns c hc
  obtain ⟨name, _, _, hd⟩ := columnDefinition_eq_ok hdef
  exact ⟨name, hd.named, hd.isName⟩

theorem Dialect.Accepts.quoteTable : ∃ label, Sql.quoteTable t.database t.name = .ok label := by
  obtain ⟨database, hdb⟩ := h.database
  obtain ⟨table, htb⟩ := h.table
  exact ⟨_, quoteTable_eq_ok.mpr ⟨database, hdb, table, htb, rfl⟩⟩

theorem Dialect.Accepts.createDatabase : ∃ sql, d.createDatabase t.database = .ok sql := by
  obtain ⟨database, hdb⟩ := h.database
  refine ⟨_, Except.bind_eq_ok.mpr ⟨quoted database, ?_, rfl⟩⟩
  exact Except.liftSink_eq_ok.mpr (quoteName_eq_ok.mpr ⟨database, hdb, rfl⟩)

theorem Dialect.Accepts.describeTable : ∃ sql, d.describeTable t.database t.name = .ok sql := by
  obtain ⟨label, hl⟩ := h.quoteTable
  cases d with
  | mysql => exact ⟨_, Except.bind_eq_ok.mpr ⟨label, Except.liftSink_eq_ok.mpr hl, rfl⟩⟩
  | hive => exact ⟨_, Except.bind_eq_ok.mpr ⟨label, Except.liftSink_eq_ok.mpr hl, rfl⟩⟩
  | clickhouse => exact ⟨_, Except.bind_eq_ok.mpr ⟨label, Except.liftSink_eq_ok.mpr hl, rfl⟩⟩

theorem Dialect.Accepts.tableExists : ∃ query, d.tableExists t.database t.name = .ok query := by
  obtain ⟨database, hdb⟩ := h.database
  cases d with
  | mysql => exact ⟨_, rfl⟩
  | clickhouse => exact ⟨_, rfl⟩
  | hive =>
      refine ⟨_, Except.bind_eq_ok.mpr ⟨quoted database, ?_, rfl⟩⟩
      exact Except.liftSink_eq_ok.mpr (quoteName_eq_ok.mpr ⟨database, hdb, rfl⟩)

end Builders

/-! ## Statements that append columns -/

theorem Except.exists_mapM_ok {f : α → Except ε β} {xs : List α} (h : ∀ x ∈ xs, ∃ y, f x = .ok y) :
    ∃ ys, xs.mapM f = .ok ys := by
  induction xs with
  | nil => exact ⟨[], rfl⟩
  | cons x xs ih =>
      obtain ⟨⟨y, hy⟩, hrest⟩ := List.forall_mem_cons.mp h
      obtain ⟨ys, hys⟩ := ih hrest
      exact ⟨y :: ys, Except.mapM_eq_ok.mpr (.cons hy (Except.mapM_eq_ok.mp hys))⟩

theorem Dialect.Accepts.addColumns (h : d.Accepts t) {columns : List Column} (hsub : columns ⊆ t.columns) :
    ∃ statements, d.addColumns t columns = .ok statements := by
  obtain ⟨label, hl⟩ := h.quoteTable
  have hdef : ∀ c ∈ columns, ∃ definition, d.columnDefinition c = .ok definition :=
    fun c hc => h.columns c (hsub hc)
  have heach : ∀ head : String, ∃ statements, columns.mapM (fun c => do
      let definition ← d.columnDefinition c
      return head ++ definition) = .ok statements := by
    refine fun head => Except.exists_mapM_ok fun c hc => ?_
    obtain ⟨definition, hd⟩ := hdef c hc
    exact ⟨_, Except.bind_eq_ok.mpr ⟨definition, hd, rfl⟩⟩
  cases d with
  | mysql =>
      obtain ⟨statements, hs⟩ := heach ("ALTER TABLE " ++ label ++ " ADD COLUMN ")
      exact ⟨statements, Except.bind_eq_ok.mpr ⟨label, Except.liftSink_eq_ok.mpr hl, hs⟩⟩
  | hive =>
      cases columns with
      | nil => exact ⟨[], rfl⟩
      | cons c columns =>
          obtain ⟨definitions, hds⟩ := Except.exists_mapM_ok hdef
          exact ⟨_, Except.bind_eq_ok.mpr ⟨definitions, hds,
            Except.bind_eq_ok.mpr ⟨label, Except.liftSink_eq_ok.mpr hl, rfl⟩⟩⟩
  | clickhouse =>
      obtain ⟨cluster, hc⟩ := h.cluster rfl
      obtain ⟨statements, hs⟩ := heach ("ALTER TABLE " ++ label ++ cluster ++ " ADD COLUMN ")
      refine ⟨statements, Except.bind_eq_ok.mpr ⟨label, Except.liftSink_eq_ok.mpr hl, ?_⟩⟩
      exact Except.bind_eq_ok.mpr ⟨cluster, Except.liftSink_eq_ok.mpr hc, hs⟩

theorem Dialect.Accepts.addColumns_nil (h : d.Accepts t) : d.addColumns t [] = .ok [] := by
  obtain ⟨label, hl⟩ := h.quoteTable
  cases d with
  | mysql => exact Except.bind_eq_ok.mpr ⟨label, Except.liftSink_eq_ok.mpr hl, rfl⟩
  | hive => rfl
  | clickhouse =>
      obtain ⟨cluster, hc⟩ := h.cluster rfl
      refine Except.bind_eq_ok.mpr ⟨label, Except.liftSink_eq_ok.mpr hl, ?_⟩
      exact Except.bind_eq_ok.mpr ⟨cluster, Except.liftSink_eq_ok.mpr hc, rfl⟩

/-- Columns are appended in batches, one statement for each; together the batches are the columns. -/
theorem Dialect.addColumns_batches {columns : List Column} {statements : List String}
    (h : d.addColumns t columns = .ok statements) :
    ∃ batches, List.Forall₂ (fun batch sql => d.addColumns t batch = .ok [sql]) batches statements ∧
      batches.flatten = columns := by
  cases d with
  | mysql =>
      obtain ⟨table, ht, hs⟩ := Mysql.addColumns_eq_ok h
      refine ⟨columns.map ([·]), List.forall₂_map_left_iff.mpr (hs.imp ?_), List.flatMap_singleton' _⟩
      rintro c _ ⟨definition, hd, rfl⟩
      refine Except.bind_eq_ok.mpr ⟨table, Except.liftSink_eq_ok.mpr ht, ?_⟩
      exact Except.mapM_eq_ok.mpr (.cons (Except.bind_eq_ok.mpr ⟨definition, hd, rfl⟩) .nil)
  | hive =>
      obtain ⟨rfl, rfl⟩ | ⟨_, _, _, _, _, rfl⟩ := Hive.addColumns_eq_ok h
      · exact ⟨[], .nil, rfl⟩
      · exact ⟨[columns], .cons h .nil, List.append_nil _⟩
  | clickhouse =>
      obtain ⟨table, cluster, ht, hc, hs⟩ := Clickhouse.addColumns_eq_ok h
      refine ⟨columns.map ([·]), List.forall₂_map_left_iff.mpr (hs.imp ?_), List.flatMap_singleton' _⟩
      rintro c _ ⟨definition, hd, rfl⟩
      refine Except.bind_eq_ok.mpr ⟨table, Except.liftSink_eq_ok.mpr ht, ?_⟩
      refine Except.bind_eq_ok.mpr ⟨cluster, Except.liftSink_eq_ok.mpr hc, ?_⟩
      exact Except.mapM_eq_ok.mpr (.cons (Except.bind_eq_ok.mpr ⟨definition, hd, rfl⟩) .nil)

theorem Dialect.addColumns_builds {columns : List Column} {statements : List String}
    (hsub : columns.Sublist t.columns) (h : d.addColumns t columns = .ok statements) :
    ∃ ddls, List.Forall₂ (d.Builds t) statements ddls ∧
      ∀ c : Catalog, (applied ddls c).hasHome d t = c.hasHome d t ∧
        (applied ddls c).columnsOf d t
          = (c.columnsOf d t).map (· ++ columns.map fun column => d.fold column.name.text) := by
  obtain ⟨batches, hb, rfl⟩ := Dialect.addColumns_batches h
  clear h
  induction hb with
  | nil => exact ⟨[], .nil, fun c => ⟨rfl, by simp [applied]⟩⟩
  | @cons batch sql batches statements hbatch _ ih =>
      rw [List.flatten_cons] at hsub
      obtain ⟨ddls, hbuild, hcatalog⟩ := ih ((List.sublist_append_right _ _).trans hsub)
      refine ⟨_, .cons (.columns ((List.sublist_append_left _ _).trans hsub) hbatch) hbuild, fun c => ?_⟩
      obtain ⟨hhome, hcolumns⟩ := hcatalog (Ddl.apply _ c)
      refine ⟨hhome, hcolumns.trans ?_⟩
      rw [Catalog.columnsOf_addColumns, Option.map_map]
      simp [Function.comp_def]

end SinkKeeper
