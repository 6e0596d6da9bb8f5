import SinkKeeper.Proofs.Convergence
import SinkKeeper.Proofs.Shared

/-!
# Crowds

A crowd is a keeper among others: before each of the next calls, other clients have their way with the catalog. It
refuses to add a column that is there. A crowd is an honest shared server if no statement is in its book twice.
-/

namespace SinkKeeper

variable {d : Dialect} {t : Table} {column : Column}

/-! ## The server -/

/-- A catalog, and what others do before each of the next calls. -/
structure Crowd (d : Dialect) (t : Table) where
  catalog : Catalog
  others : List (List Ddl)

/-- The name by which the engine knows a column. Hive knows none with blanks around it. -/
def Dialect.known : Dialect → String → String
  | .hive => fun name => Text.lower (Text.strip name)
  | .mysql | .clickhouse => id

def Catalog.knows (c : Catalog) (d : Dialect) (t : Table) (name : String) : Bool :=
  ((c.columnsOf d t).getD []).any fun n => d.known n == name

def Catalog.sight (c : Catalog) (d : Dialect) (t : Table) : Sight where
  tables name := (c.columns (d.fold t.database.text) name).isSome = true
  columns name := c.knows d t name = true

/-- Whether a statement would add a column that is there, or one to no table. -/
def Catalog.clashes (c : Catalog) (d : Dialect) (t : Table) : Ddl → Bool
  | .addColumns _ _ names => (c.columnsOf d t).isNone || names.any (c.knows d t)
  | _ => false

namespace Crowd

def duplicateColumn : Fault := .plain .database "Duplicate column name"

def faced (k : Crowd d t) : Catalog := applied (k.others.headD []) k.catalog

def view (d : Dialect) (t : Table) (k : Crowd d t) : Sight := k.catalog.sight d t

def met (d : Dialect) (t : Table) (k : Crowd d t) (_ : Call) : Sight := k.faced.sight d t

def refuses (k : Crowd d t) : Call → Bool
  | .exec sql => ((d.book t).lookup sql).any (k.faced.clashes d t)
  | _ => false

def respond (k : Crowd d t) (c : Call) : Answer × Crowd d t :=
  if k.refuses c then (.error duplicateColumn, ⟨k.faced, k.others.tail⟩)
  else (.rows (Keeper.rowsOf k.faced d t c), ⟨Keeper.catalogAfter k.faced d t c, k.others.tail⟩)

instance : Server (Crowd d t) := ⟨respond, fun _ => .usable⟩

theorem respond_of_done {k : Crowd d t} {c : Call} (h : (Server.respond k c).1.outcome = .done) :
    k.refuses c = false ∧ Server.respond k c =
      (.rows (Keeper.rowsOf k.faced d t c), ⟨Keeper.catalogAfter k.faced d t c, k.others.tail⟩) := by
  simp only [Server.respond, respond] at h ⊢
  cases hr : k.refuses c with
  | true =>
      rw [hr] at h
      cases h
  | false => exact ⟨rfl, rfl⟩

theorem rows_eq {k : Crowd d t} {sql : String} {params : Json.Fields} {rows : List Row}
    (h : (Server.respond k (.query sql params)).1 = .rows rows) : rows = Keeper.answer k.faced d t sql params :=
  (Answer.rows.inj h).symm

/-- A statement that was done has the effect that the book tells, and clashes with nothing. -/
theorem done_of_builds (hd : ((d.book t).map Prod.fst).Nodup) {k : Crowd d t} {sql : String} {ddl : Ddl}
    (hb : d.Builds t sql ddl) (h : (Server.respond k (.exec sql)).1.outcome = .done) :
    k.faced.clashes d t ddl = false ∧ (Server.respond k (.exec sql)).2.catalog = ddl.apply k.faced := by
  obtain ⟨hr, hk⟩ := respond_of_done h
  rw [refuses, hb.lookup hd] at hr
  rw [hk]
  refine ⟨hr, ?_⟩
  show Keeper.catalogAfter k.faced d t (.exec sql) = _
  rw [Keeper.catalogAfter, hb.lookup hd]
  rfl

theorem failsAsDriver (k : Crowd d t) : Server.FailsAsDriver k := by
  intro calls c f hf
  generalize Server.after k calls = k' at hf
  simp only [Server.respond, respond] at hf
  split at hf
  · cases hf
    rfl
  · cases hf

end Crowd

/-! ## Growth -/

theorem Catalog.Within.trans {a b c : Catalog} (hab : a.Within b) (hbc : b.Within c) : a.Within c := by
  refine ⟨fun name h => hbc.1 name (hab.1 name h), fun x y names h => ?_⟩
  obtain ⟨names', h', hsub⟩ := hab.2 x y names h
  obtain ⟨names'', h'', hsub'⟩ := hbc.2 x y names' h'
  exact ⟨names'', h'', List.Subset.trans hsub hsub'⟩

theorem Catalog.Within.applied (ddls : List Ddl) (c : Catalog) : c.Within (applied ddls c) := by
  induction ddls generalizing c with
  | nil => exact .refl c
  | cons ddl ddls ih => exact (Catalog.Within.apply ddl c).trans (ih (ddl.apply c))

theorem Catalog.Within.sight {c c' : Catalog} (h : c.Within c') : (c.sight d t).Within (c'.sight d t) := by
  refine ⟨fun name hn => ?_, fun name hn => ?_⟩
  · obtain ⟨names, hnames⟩ := Option.isSome_iff_exists.mp hn
    obtain ⟨names', hnames', -⟩ := h.2 _ _ names hnames
    exact Option.isSome_iff_exists.mpr ⟨names', hnames'⟩
  · cases hc : c.columnsOf d t with
    | none => simp [Catalog.sight, Catalog.knows, hc] at hn
    | some names =>
        obtain ⟨names', hc', hsub⟩ := h.2 _ _ names hc
        simp only [Catalog.sight, Catalog.knows, hc] at hn
        obtain ⟨n, hmem, hsame⟩ := List.any_eq_true.mp hn
        have hthere : c'.columnsOf d t = some names' := hc'
        simp only [Catalog.sight, Catalog.knows, hthere]
        exact List.any_eq_true.mpr ⟨n, hsub hmem, hsame⟩

theorem Keeper.within_catalogAfter (c : Catalog) (call : Call) : c.Within (Keeper.catalogAfter c d t call) := by
  cases call with
  | exec sql =>
      simp only [Keeper.catalogAfter]
      cases (d.book t).lookup sql with
      | none => exact .refl c
      | some ddl => exact .apply ddl c
  | _ => exact .refl c

/-! ## Names -/

theorem Dialect.known_fold {name : String} (h : Sql.isName name.toList = true) :
    d.known (d.fold name) = d.fold name := by
  obtain ⟨hname, hfold⟩ := Dialect.fold_name (d := d) h
  cases d with
  | hive =>
      show Text.lower (Text.strip (Text.lower name)) = Text.lower name
      have hstrip : Text.strip (Text.lower name) = Text.lower name := (legible_of_isName hname).1
      rw [hstrip]
      exact hfold
  | _ => rfl

theorem Catalog.knows_of_mem {c : Catalog} {names : List String} (hn : t.Named) (hm : column ∈ t.columns)
    (hc : c.columnsOf d t = some names) (hmem : d.fold column.name.text ∈ names) :
    (c.sight d t).HasColumn d column := by
  obtain ⟨name, hname, hi⟩ := hn column hm
  rw [hname] at hmem
  rw [Sight.HasColumn, hname]
  simp only [Catalog.sight, Catalog.knows, hc]
  exact List.any_eq_true.mpr ⟨_, hmem, beq_iff_eq.mpr (Dialect.known_fold hi)⟩

/-! ## Honesty -/

/-- A crowd is an honest shared server if no statement for the table is in its book twice. -/
theorem Crowd.shared (ha : d.Accepts t) (hd : ((d.book t).map Prod.fst).Nodup) :
    Shared d t (Crowd.view d t) (Crowd.met d t) where
  grows k _ := (Catalog.Within.applied _ _).sight
  keeps k c h _ := by
    rw [(respond_of_done h).2]
    exact (Keeper.within_catalogAfter _ _).sight
  table k query rows hq h := by
    obtain ⟨name, hname, hi⟩ := ha.table
    have htext : t.name.text = name := by rw [hname]; rfl
    rw [rows_eq h, Keeper.answer_table _ hq]
    exact Keeper.answers_shown (htext ▸ hi) Iff.rfl
  column k query rows column _ hq h := by
    rw [rows_eq h, Keeper.answer_column _ hq, Keeper.shown_ne_nil]
    cases d with
    | hive => cases hq
    | _ => rfl
  describe k sql rows hhive _ h := by
    subst hhive
    rw [rows_eq h, Keeper.answer_describe]
    refine ⟨_, [], (List.append_nil _).symm, List.forall_mem_map.mpr fun name hname => ?_, by simp⟩
    refine ⟨name, (Keeper.rowOf_names name).mono (by omega), ?_⟩
    exact List.any_eq_true.mpr ⟨name, hname, beq_self_eq_true _⟩
  makes k sql hsql h habsent column hc := by
    obtain ⟨-, hk⟩ := done_of_builds hd (.table hsql) h
    have hnone : k.faced.columnsOf d t = none := Option.not_isSome_iff_eq_none.mp habsent
    rw [Crowd.view, hk]
    refine Catalog.knows_of_mem ha.named hc (Catalog.columnsOf_makeTable _ _) ?_
    rw [hnone]
    exact Table.mem_created hc
  adds k batch sql hsub hsql h column hc := by
    obtain ⟨hclash, hk⟩ := done_of_builds hd (.columns hsub hsql) h
    obtain ⟨htable, hunknown⟩ := Bool.or_eq_false_iff.mp hclash
    have hmem := List.mem_map_of_mem (f := fun c => d.fold c.name.text) hc
    refine ⟨List.any_eq_false.mp hunknown _ hmem, ?_⟩
    obtain ⟨names, hnames⟩ : ∃ names, k.faced.columnsOf d t = some names := by
      cases hcolumns : k.faced.columnsOf d t with
      | none =>
          rw [hcolumns] at htable
          cases htable
      | some names => exact ⟨names, rfl⟩
    have happended := congrArg (fun c => c.columnsOf d t) hk
    rw [Catalog.columnsOf_addColumns, hnames] at happended
    exact Catalog.knows_of_mem ha.named (hsub.subset hc) happended (List.mem_append_right _ hmem)

theorem pairCrowd_shared :
    Shared .mysql Task.pairTable (Crowd.view .mysql Task.pairTable) (Crowd.met .mysql Task.pairTable) := by
  have hb : ∃ sql, Dialect.createTable Task.pairTable .mysql = .ok sql := ⟨_, rfl⟩
  exact Crowd.shared (.of_createTable hb.choose_spec) (by decide)

/-! ## Tries -/

namespace Task

variable {σ α : Type}

def succeeds (p : α → Link σ → Bool) : EStateM.Result Failure (Link σ) α → Bool
  | .ok a link => p a link
  | .error .. => false

def fails (p : Link σ → Bool) : EStateM.Result Failure (Link σ) α → Bool
  | .ok .. => false
  | .error _ link => p link

theorem of_succeeds {p : α → Link σ → Bool} {r : EStateM.Result Failure (Link σ) α} (h : succeeds p r = true) :
    ∃ a link, r = .ok a link ∧ p a link = true := by
  cases r with
  | ok a link => exact ⟨a, link, rfl, h⟩
  | error => cases h

theorem of_fails {p : Link σ → Bool} {r : EStateM.Result Failure (Link σ) α} (h : fails p r = true) :
    ∃ e link, r = .error e link ∧ p link = true := by
  cases r with
  | ok => cases h
  | error e link => exact ⟨e, link, rfl, h⟩

end Task

end SinkKeeper
