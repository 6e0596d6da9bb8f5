import Mathlib.Data.List.Sublists
import SinkKeeper.Proofs.Accepted

/-!
# Keepers

A keeper is a server that holds nothing but a catalog and knows from a book what the statements for a table do.
Calls break as often as it is told to; a call that breaks has no effect. A keeper is honest if no statement is in
its book twice.
-/

namespace SinkKeeper

variable {d : Dialect} {t : Table}

/-! ## Books -/

def entry (sql : Except Failure String) (ddl : Ddl) : List (String × Ddl) :=
  match sql with
  | .ok sql => [(sql, ddl)]
  | .error _ => []

def batchEntry (d : Dialect) (t : Table) (batch : List Column) : List (String × Ddl) :=
  match d.addColumns t batch with
  | .ok [sql] => [(sql, .addColumns (d.fold t.database.text) (d.fold t.name.text)
      (batch.map fun c => d.fold c.name.text))]
  | _ => []

/-- The statements for a table and what they do. -/
def Dialect.book (d : Dialect) (t : Table) : List (String × Ddl) :=
  entry (d.createDatabase t.database) (.makeDatabase (d.fold t.database.text))
    ++ entry (d.createTable t) (.makeTable (d.fold t.database.text) (d.fold t.name.text) (t.created d))
    ++ t.columns.sublists.flatMap (batchEntry d t)

theorem Dialect.Builds.mem_book {sql : String} {ddl : Ddl} (h : d.Builds t sql ddl) : (sql, ddl) ∈ d.book t := by
  cases h with
  | database h =>
      refine List.mem_append_left _ (List.mem_append_left _ ?_)
      rw [h]
      exact List.mem_singleton_self _
  | table h =>
      refine List.mem_append_left _ (List.mem_append_right _ ?_)
      rw [h]
      exact List.mem_singleton_self _
  | @columns batch _ hs h =>
      refine List.mem_append_right _ (List.mem_flatMap.mpr ⟨batch, List.mem_sublists.mpr hs, ?_⟩)
      rw [batchEntry, h]
      exact List.mem_singleton_self _

/-- Where no statement is in the book twice, what it does is found there. -/
theorem Dialect.Builds.lookup (hd : ((d.book t).map Prod.fst).Nodup) {sql : String} {ddl : Ddl}
    (h : d.Builds t sql ddl) : (d.book t).lookup sql = some ddl := by
  obtain ⟨before, after, hb⟩ := List.append_of_mem h.mem_book
  refine List.lookup_eq_some_iff.mpr ⟨before, after, hb, fun p hp => ?_⟩
  rw [hb, List.map_append, List.map_cons] at hd
  have hne := (List.nodup_append.mp hd).2.2 p.1 (List.mem_map.mpr ⟨p, hp, rfl⟩) sql List.mem_cons_self
  simpa using Ne.symm hne

/-! ## The server -/

/-- A catalog, and which of the next calls break. -/
structure Keeper (d : Dialect) (t : Table) where
  catalog : Catalog
  breaks : List Bool

namespace Keeper

def rowOf (name : String) : Row := ⟨.string name :: List.replicate 6 .null, true⟩

def shown (there : Bool) (name : String) : List Row := if there then [rowOf name] else []

def answer (c : Catalog) (d : Dialect) (t : Table) (sql : String) (params : Json.Fields) : List Row :=
  match params.lookup "column" with
  | some column => shown (c.hasColumn d t column.text) column.text
  | none =>
    if params.isEmpty then ((c.columnsOf d t).getD []).map rowOf
    else if sql = (d.databaseExists t.database).sql then shown (c.hasHome d t) t.database.text
    else shown (c.columnsOf d t).isSome t.name.text

def catalogAfter (c : Catalog) (d : Dialect) (t : Table) : Call → Catalog
  | .exec sql => (((d.book t).lookup sql).map (·.apply c)).getD c
  | _ => c

def rowsOf (c : Catalog) (d : Dialect) (t : Table) : Call → List Row
  | .query sql params => answer c d t sql params
  | _ => []

/-- Answers a call, or breaks it. -/
def respond (k : Keeper d t) (c : Call) : Answer × Keeper d t :=
  if k.breaks.headD false then (.broken (.plain .timeout "timed out"), { k with breaks := k.breaks.tail })
  else (.rows (rowsOf k.catalog d t c), ⟨catalogAfter k.catalog d t c, k.breaks.tail⟩)

instance : Server (Keeper d t) := ⟨respond, fun _ => .usable⟩

theorem rows_eq {k : Keeper d t} {sql : String} {params : Json.Fields} {rows : List Row}
    (h : (Server.respond k (.query sql params)).1 = .rows rows) : rows = answer k.catalog d t sql params := by
  simp only [Server.respond, respond] at h
  split at h
  · exact nomatch h
  · exact (Answer.rows.inj h).symm

end Keeper

/-! ## Rows that show names -/

theorem Keeper.rowOf_names (name : String) : (Keeper.rowOf name).Names 6 name := ⟨_, rfl, by simp⟩

theorem Row.Names.mono {row : Row} {name : String} {m n : Nat} (h : row.Names n name) (hm : m ≤ n) :
    row.Names m name := by
  obtain ⟨cells, hc, hn⟩ := h
  exact ⟨cells, hc, Nat.le_trans hm hn⟩

@[simp] theorem Keeper.shown_ne_nil {there : Bool} {name : String} :
    Keeper.shown there name ≠ [] ↔ there = true := by cases there <;> simp [Keeper.shown]

theorem Keeper.answers_shown {there : Bool} {name : String} {present : String → Prop}
    (hi : Sql.isName name.toList = true) (h : there = true ↔ present (d.fold name)) :
    d.Answers (Keeper.shown there name) name present := by
  cases d with
  | mysql => exact Keeper.shown_ne_nil.trans h
  | clickhouse => exact Keeper.shown_ne_nil.trans h
  | hive =>
      obtain ⟨hstrip, -⟩ := legible_of_isName hi
      cases there with
      | false => exact ⟨List.forall_mem_nil _, fun hp => absurd (h.mpr hp) (by simp)⟩
      | true =>
          refine ⟨List.forall_mem_singleton.mpr ⟨.string name, rfl, ?_⟩, fun _ => ?_⟩
          · show present (Text.lower (Text.strip name))
            rw [hstrip]
            exact h.mp rfl
          · refine ⟨Keeper.rowOf name, List.mem_singleton_self _, .string name, rfl, ?_⟩
            show Text.lower (Text.strip name) = Text.lower name
            rw [hstrip]

theorem Keeper.describes_rowOf (names : List String) : d.Describes (names.map Keeper.rowOf) names := by
  cases d with
  | mysql =>
      refine List.forall₂_map_left_iff.mpr (List.forall₂_same.mpr fun name _ => ?_)
      exact (Keeper.rowOf_names name).mono (by omega)
  | clickhouse => exact List.forall₂_map_left_iff.mpr (List.forall₂_same.mpr fun name _ => Keeper.rowOf_names name)
  | hive =>
      refine ⟨names.map Keeper.rowOf, [], (List.append_nil _).symm, ?_, fun _ h => nomatch h⟩
      refine List.forall₂_map_left_iff.mpr (List.forall₂_same.mpr fun name _ => ?_)
      exact ⟨name, (Keeper.rowOf_names name).mono (by omega), rfl⟩

/-! ## Honesty -/

theorem Catalog.Within.apply (ddl : Ddl) (c : Catalog) : c.Within (ddl.apply c) := by
  cases ddl with
  | makeDatabase name =>
      refine ⟨fun n hn => ?_, fun _ _ names h => ⟨names, h, List.Subset.refl _⟩⟩
      simp [Ddl.apply, hn]
  | makeTable home name columns =>
      refine ⟨fun _ h => h, fun x y names h => ⟨names, ?_, List.Subset.refl _⟩⟩
      simp [Ddl.apply, h]
  | addColumns home name columns =>
      refine ⟨fun _ h => h, fun x y names h => ?_⟩
      by_cases hxy : x = home ∧ y = name
      · obtain ⟨rfl, rfl⟩ := hxy
        exact ⟨names ++ columns, by simp [Ddl.apply, h], List.subset_append_left _ _⟩
      · exact ⟨names, by simp [Ddl.apply, hxy, h], List.Subset.refl _⟩

section Queries

variable (c : Catalog)

theorem Keeper.answer_of_bound {sql : String} {params : Json.Fields} (hl : params.lookup "column" = none)
    (hn : params.isEmpty = false) : Keeper.answer c d t sql params =
      if sql = (d.databaseExists t.database).sql then Keeper.shown (c.hasHome d t) t.database.text
      else Keeper.shown (c.columnsOf d t).isSome t.name.text := by
  simp only [Keeper.answer, hl, hn]
  rfl

theorem Keeper.answer_database : Keeper.answer c d t (d.databaseExists t.database).sql
    (d.databaseExists t.database).params = Keeper.shown (c.hasHome d t) t.database.text := by
  rw [Keeper.answer_of_bound, if_pos rfl]
  · cases d <;> rfl
  · cases d <;> rfl

theorem Keeper.answer_describe (sql : String) :
    Keeper.answer c d t sql [] = ((c.columnsOf d t).getD []).map Keeper.rowOf := rfl

theorem Keeper.answer_column {query : Query} {column : Json}
    (h : d.columnExists t.database t.name column = some query) : Keeper.answer c d t query.sql query.params
      = Keeper.shown (c.hasColumn d t column.text) column.text := by
  cases d with
  | mysql =>
      obtain rfl := Option.some.inj h
      rfl
  | clickhouse =>
      obtain rfl := Option.some.inj h
      rfl
  | hive => exact nomatch h

theorem Dialect.tableExists_ne {query : Query} (h : d.tableExists t.database t.name = .ok query) :
    query.sql ≠ (d.databaseExists t.database).sql := by
  cases d with
  | mysql =>
      obtain rfl := Except.ok.inj h
      show (Mysql.tableExists .null .null).sql ≠ (Mysql.databaseExists .null).sql
      decide
  | clickhouse =>
      obtain rfl := Except.ok.inj h
      show (Clickhouse.tableExists .null .null).sql ≠ (Clickhouse.databaseExists .null).sql
      decide
  | hive =>
      obtain ⟨name, -, hq⟩ := Except.bind_eq_ok.mp h
      obtain rfl := Except.ok.inj hq
      -- The two queries differ in the sixth letter, whatever the name of the database.
      have hsixth : ∀ rest : String, ("SHOW TABLES IN " ++ rest).toList[5]? = some 'T' := by
        intro rest
        rw [String.toList_append, List.getElem?_append_left (by decide)]
        rfl
      show "SHOW TABLES IN " ++ name ++ " LIKE :pattern" ≠ "SHOW DATABASES LIKE :pattern"
      intro he
      have hd := hsixth (name ++ " LIKE :pattern")
      rw [← String.append_assoc, he] at hd
      exact absurd hd (by decide)

theorem Keeper.answer_table {query : Query} (h : d.tableExists t.database t.name = .ok query) :
    Keeper.answer c d t query.sql query.params = Keeper.shown (c.columnsOf d t).isSome t.name.text := by
  have hparams : query.params.lookup "column" = none ∧ query.params.isEmpty = false := by
    cases d with
    | mysql =>
        obtain rfl := Except.ok.inj h
        exact ⟨rfl, rfl⟩
    | clickhouse =>
        obtain rfl := Except.ok.inj h
        exact ⟨rfl, rfl⟩
    | hive =>
        obtain ⟨name, -, hq⟩ := Except.bind_eq_ok.mp h
        obtain rfl := Except.ok.inj hq
        exact ⟨rfl, rfl⟩
  rw [Keeper.answer_of_bound c hparams.1 hparams.2, if_neg (Dialect.tableExists_ne h)]

end Queries

theorem Keeper.moves (hd : ((d.book t).map Prod.fst).Nodup) (k : Keeper d t)
    (c : Call) : d.Moves t c (Server.respond k c).1.outcome k.catalog (Server.respond k c).2.catalog := by
  simp only [Server.respond, Keeper.respond]
  split
  · cases c with
    | exec sql => exact fun ddl _ => .apply ddl _
    | _ => exact .refl _
  · cases c with
    | exec sql =>
        intro ddl hb
        show Keeper.catalogAfter k.catalog d t (.exec sql) = _
        rw [Keeper.catalogAfter, hb.lookup hd]
        rfl
    | query => rfl
    | start => rfl
    | commit => rfl
    | _ => exact .refl _

/-- A keeper is honest if no statement for the table is in its book twice. -/
theorem Keeper.honest (ha : d.Accepts t) (hd : ((d.book t).map Prod.fst).Nodup) :
    Honest d t fun k : Keeper d t => k.catalog where
  database k rows h := by
    obtain ⟨name, hname, hi⟩ := ha.database
    have htext : t.database.text = name := by rw [hname]; rfl
    rw [rows_eq h, answer_database]
    exact answers_shown (htext ▸ hi) Iff.rfl
  table k query rows hq h := by
    obtain ⟨name, hname, hi⟩ := ha.table
    have htext : t.name.text = name := by rw [hname]; rfl
    rw [rows_eq h, answer_table _ hq]
    exact answers_shown (htext ▸ hi) Iff.rfl
  column k query rows c _ hq h := by
    rw [rows_eq h, answer_column _ hq]
    exact shown_ne_nil
  describe k sql rows names _ h hn := by
    rw [rows_eq h, answer_describe, hn]
    exact describes_rowOf names
  moves := moves hd

theorem Keeper.done_of_breaks {k : Keeper d t} (hk : k.breaks = []) {events : List Event}
    (ha : Server.Answered k events) : ∀ e ∈ events, e.outcome = .done := by
  induction events generalizing k with
  | nil => exact List.forall_mem_nil _
  | cons e events ih =>
      have hr : Server.respond k e.call
          = (.rows (rowsOf k.catalog d t e.call), ⟨catalogAfter k.catalog d t e.call, []⟩) := by
        simp [Server.respond, respond, hk]
      obtain ⟨hfirst, hrest⟩ := ha
      rw [hr] at hfirst hrest
      exact List.forall_mem_cons.mpr ⟨hfirst, ih rfl hrest⟩

end SinkKeeper
