import SinkKeeper.Proofs.Answers
import SinkKeeper.Proofs.Keeper

/-!
# Convergence

A table is brought to its wanted state over an honest server. However the first try ends, a second one in which
nothing fails sends exactly the statements for what is missing and leaves nothing missing, and a third one only
asks.
-/

namespace SinkKeeper

variable {d : Dialect} {t : Table} {sql : String}

/-! ## What is missing -/

/-- The columns of a table that a catalog does not have, in the order in which they are declared. -/
def Table.missing (t : Table) (d : Dialect) (c : Catalog) : List Column :=
  t.columns.filter fun column => !c.hasColumn d t column.name.text

def Dialect.homeStatements (d : Dialect) (t : Table) (c : Catalog) : Except Failure (List String) :=
  if c.hasHome d t then .ok [] else (d.createDatabase t.database).map ([·])

def Dialect.tableStatements (d : Dialect) (t : Table) (c : Catalog) : Except Failure (List String) :=
  match c.columnsOf d t with
  | none => (d.createTable t).map ([·])
  | some _ => d.addColumns t (t.missing d c)

/-- The statements for everything that is missing. -/
def Dialect.remaining (d : Dialect) (t : Table) (c : Catalog) : Except Failure (List String) := do
  let home ← d.homeStatements t c
  let table ← d.tableStatements t c
  return home ++ table

/-- A catalog in which nothing is missing. -/
structure Catalog.Settled (c : Catalog) (d : Dialect) (t : Table) : Prop where
  home : c.hasHome d t = true
  table : (c.columnsOf d t).isSome = true
  columns : ∀ column ∈ t.columns, c.hasColumn d t column.name.text = true

instance (c : Catalog) (d : Dialect) (t : Table) : Decidable (c.Settled d t) :=
  decidable_of_iff (c.hasHome d t = true ∧ (c.columnsOf d t).isSome = true ∧
    ∀ column ∈ t.columns, c.hasColumn d t column.name.text = true)
    ⟨fun h => ⟨h.1, h.2.1, h.2.2⟩, fun h => ⟨h.home, h.table, h.columns⟩⟩

theorem Catalog.Settled.missing {c : Catalog} (h : c.Settled d t) : t.missing d c = [] := by
  refine List.filter_eq_nil_iff.mpr fun column hc => ?_
  rw [h.columns column hc]
  simp

theorem Catalog.hasColumn_of_mem {c : Catalog} {names : List String} {n name : String}
    (hc : c.columnsOf d t = some names) (hn : n ∈ names) (he : d.fold n = d.fold name) :
    c.hasColumn d t name = true := by
  rw [Catalog.hasColumn, hc]
  exact List.any_eq_true.mpr ⟨n, hn, beq_iff_eq.mpr he⟩

theorem Table.Named.fold_fold (hn : t.Named) {column : Column} (hc : column ∈ t.columns) :
    d.fold (d.fold column.name.text) = d.fold column.name.text := by
  obtain ⟨name, hname, hi⟩ := hn column hc
  rw [hname]
  exact (Dialect.fold_name hi).2

theorem Table.mem_created {column : Column} (hc : column ∈ t.columns) :
    d.fold column.name.text ∈ t.created d := by
  refine List.mem_append_left _ (List.mem_map.mpr ⟨column, ?_, rfl⟩)
  cases d with
  | mysql => exact List.mem_append_left _ hc
  | clickhouse => exact List.mem_append_left _ hc
  | hive =>
      cases hp : column.partition with
      | false => exact List.mem_append_left _ (List.mem_filter.mpr ⟨hc, by rw [hp]; rfl⟩)
      | true => exact List.mem_append_right _ (List.mem_filter.mpr ⟨hc, hp⟩)

theorem Table.missing_congr {c c' : Catalog} (h : c'.columnsOf d t = c.columnsOf d t) :
    t.missing d c' = t.missing d c := by
  simp only [Table.missing, Catalog.hasColumn, h]

section Steps

variable {c c' : Catalog} (hn : t.Named) (hh : c'.hasHome d t = true)

include hn hh

theorem Catalog.Settled.of_created (hc : c'.columnsOf d t = some (t.created d)) : c'.Settled d t := by
  refine ⟨hh, by rw [hc]; rfl, fun column hm => ?_⟩
  exact Catalog.hasColumn_of_mem hc (Table.mem_created hm) (hn.fold_fold hm)

theorem Catalog.Settled.of_appended {names : List String} (hc : c.columnsOf d t = some names)
    (hc' : c'.columnsOf d t = some (names ++ (t.missing d c).map fun column => d.fold column.name.text)) :
    c'.Settled d t := by
  refine ⟨hh, by rw [hc']; rfl, fun column hm => ?_⟩
  cases hhas : c.hasColumn d t column.name.text with
  | true =>
      rw [Catalog.hasColumn, hc] at hhas
      obtain ⟨name, hname, he⟩ := List.any_eq_true.mp hhas
      exact Catalog.hasColumn_of_mem hc' (List.mem_append_left _ hname) (beq_iff_eq.mp he)
  | false =>
      have hmissing : column ∈ t.missing d c := List.mem_filter.mpr ⟨hm, by rw [hhas]; rfl⟩
      exact Catalog.hasColumn_of_mem hc' (List.mem_append_right _ (List.mem_map.mpr ⟨column, hmissing, rfl⟩))
        (hn.fold_fold hm)

end Steps

/-! ## The steps -/

namespace Task

variable {σ : Type} [Server σ] {view : σ → Catalog} {link : Link σ}

theorem createDatabase_proceeds (hh : Honest d t view) (ha : d.Accepts t) (link : Link σ) :
    Proceeds d t (createDatabase d t.database) link ((view link.server).hasHome d t = true) fun report new link' =>
      d.homeStatements t (view link.server) = .ok report.executed ∧ Sends report.executed new ∧
        (view link'.server).hasHome d t = true ∧
        (view link'.server).columnsOf d t = (view link.server).columnsOf d t := by
  refine (databaseExists_proceeds hh ha link).bind ?_
  rintro found new link₁ hx hm hc ⟨hasks, rfl⟩
  have hview := view_of_asks hh hx hm hc hasks
  split
  · rename_i hhome
    refine .afterNote fun link₂ hx' => .pure ?_
    have hview' : view link₂.server = view link.server := (congrArg view hx'.server).trans hview
    rw [List.append_nil, hview', Dialect.homeStatements, if_pos hhome]
    exact ⟨rfl, .of_asks hasks, hhome, rfl⟩
  · rename_i hhome
    obtain ⟨sql, hsql⟩ := ha.createDatabase
    have hbuild : d.Builds t sql _ := .database hsql
    refine .after (a := sql) (by rw [hsql]; rfl) ?_
    refine .quieter hhome ((execute_proceeds hbuild link₁).bind ?_)
    intro _ more link₂ hx' hm' hc' hs
    refine .afterNote fun link₃ hx'' => .pure ?_
    have hview' : view link₃.server = (Ddl.makeDatabase (d.fold t.database.text)).apply (view link.server) := by
      rw [hx''.server, ← hview]
      exact view_of_sends hh hx' hm' hc' hs (.cons hbuild .nil)
    rw [List.append_nil, hview', Dialect.homeStatements, if_neg hhome, hsql]
    exact ⟨rfl, (Sends.of_asks hasks).append hs, Catalog.hasHome_makeDatabase _, rfl⟩

theorem reported_proceeds (hh : Honest d t view) (ha : d.Accepts t) (hl : (view link.server).Legible d t)
    (hn : ((view link.server).columnsOf d t).isSome = true) (executed : List String) {quiet : Prop} :
    Proceeds d t (do
        let columns ← columns d t.database t.name
        return { Report.done with columns, executed }) link quiet fun report new link' =>
      report.executed = executed ∧ report.success = true ∧ Asks new ∧ view link'.server = view link.server := by
  obtain ⟨names, hnames⟩ := Option.isSome_iff_exists.mp hn
  refine (columns_proceeds hh ha hl hnames).bind ?_
  rintro columns new link' hx hm hc ⟨hasks, -⟩
  refine .pure ?_
  rw [List.append_nil]
  exact ⟨rfl, rfl, hasks, view_of_asks hh hx hm hc hasks⟩

theorem createTable_proceeds (hh : Honest d t view) (hb : d.createTable t = .ok sql)
    (hl : (view link.server).Legible d t) :
    Proceeds d t (createTable d t) link (((view link.server).columnsOf d t).isSome = true) fun report new link' =>
      Sends report.executed new ∧ (view link'.server).hasHome d t = (view link.server).hasHome d t ∧
        (report.executed = [] ∧ ((view link.server).columnsOf d t).isSome = true ∧
            (view link'.server).columnsOf d t = (view link.server).columnsOf d t ∨
          report.executed = [sql] ∧ (view link.server).columnsOf d t = none ∧
            (view link'.server).columnsOf d t = some (t.created d)) := by
  have ha := Dialect.Accepts.of_createTable hb
  refine (tableExists_proceeds hh ha link).bind ?_
  rintro found new link₁ hx hm hc ⟨hasks, rfl⟩
  have hview := view_of_asks hh hx hm hc hasks
  split
  · rename_i hthere
    refine .afterNote fun link₂ hx' => .after rfl ?_
    have hview' : view link₂.server = view link.server := (congrArg view hx'.server).trans hview
    refine (reported_proceeds hh ha (hview' ▸ hl) (hview' ▸ hthere) []).mono ?_
    rintro report more link₃ ⟨hreport, -, hmore, hsame⟩
    rw [hreport, hsame, hview']
    exact ⟨.of_asks (List.forall_mem_append.mpr ⟨hasks, hmore⟩), rfl, .inl ⟨rfl, hthere, rfl⟩⟩
  · rename_i hthere
    have hnone : (view link.server).columnsOf d t = none := by simpa using hthere
    have hbuild : d.Builds t sql _ := .table hb
    refine .after (a := sql) (by rw [hb]; rfl) ?_
    refine .quieter hthere ((execute_proceeds hbuild link₁).bind ?_)
    intro _ more link₂ hx' hm' hc' hs
    refine .afterNote fun link₃ hx'' => .after rfl ?_
    have hview' : view link₃.server = (Ddl.makeTable (d.fold t.database.text) (d.fold t.name.text)
        (t.created d)).apply (view link.server) := by
      rw [hx''.server, ← hview]
      exact view_of_sends hh hx' hm' hc' hs (.cons hbuild .nil)
    have hcolumns : (view link₃.server).columnsOf d t = some (t.created d) := by
      rw [hview', Catalog.columnsOf_makeTable, hnone]
      rfl
    have hlegible : (view link₃.server).Legible d t :=
      hview' ▸ hl.apply ha.named hbuild
    refine (reported_proceeds hh ha hlegible (by rw [hcolumns]; rfl) [sql]).mono ?_
    rintro report last link₄ ⟨hreport, -, hlast, hsame⟩
    rw [hreport, hsame, hcolumns, hview', Catalog.hasHome_makeTable]
    refine ⟨?_, rfl, .inr ⟨rfl, hnone, rfl⟩⟩
    exact (Sends.of_asks hasks).append (hs.append (.of_asks hlast))

theorem addColumns_proceeds (hh : Honest d t view) (ha : d.Accepts t) (hl : (view link.server).Legible d t)
    (hn : ((view link.server).columnsOf d t).isSome = true) :
    Proceeds d t (addColumns d t) link (t.missing d (view link.server) = []) fun report new link' =>
      d.addColumns t (t.missing d (view link.server)) = .ok report.executed ∧ Sends report.executed new ∧
        (view link'.server).hasHome d t = (view link.server).hasHome d t ∧
        (view link'.server).columnsOf d t = ((view link.server).columnsOf d t).map
          (· ++ (t.missing d (view link.server)).map fun column => d.fold column.name.text) := by
  refine (missingOf_proceeds hh ha hl hn (List.Subset.refl _)).bind ?_
  rintro missing new link₁ hx hm hc ⟨hasks, hmissing⟩
  have hview := view_of_asks hh hx hm hc hasks
  rw [show t.missing d (view link.server) = missing from hmissing.symm]
  split
  · -- An empty batch is not sent: the statements for no columns are none.
    rename_i hnone
    have hnil : missing = [] := List.isEmpty_iff.mp hnone
    refine .afterNote fun link₂ hx' => .pure ?_
    have hview' : view link₂.server = view link.server := (congrArg view hx'.server).trans hview
    rw [List.append_nil, hview', hnil, ha.addColumns_nil]
    refine ⟨rfl, .of_asks hasks, rfl, ?_⟩
    simp
  · rename_i hsome
    have hsub : missing.Sublist t.columns := hmissing ▸ List.filter_sublist
    obtain ⟨statements, hs⟩ := ha.addColumns hsub.subset
    obtain ⟨ddls, hbuild, hcatalog⟩ := Dialect.addColumns_builds hsub hs
    refine .after (a := statements) (by rw [hs]; rfl) ?_
    refine .quieter (fun h => hsome (List.isEmpty_iff.mpr h)) (Proceeds.bind
      (executeBatch_proceeds (exists_of_forall₂ hbuild) _ link₁) ?_)
    intro _ more link₂ hx' hm' hc' hsends
    refine .afterNote fun link₃ hx'' => .pure ?_
    have hview' : view link₃.server = applied ddls (view link.server) := by
      rw [hx''.server, ← hview]
      exact view_of_sends hh hx' hm' hc' hsends hbuild
    rw [List.append_nil, hview']
    exact ⟨hs, (Sends.of_asks hasks).append hsends, hcatalog _⟩

theorem ensureTable_proceeds (hh : Honest d t view) (hb : d.createTable t = .ok sql)
    (hl : (view link.server).Legible d t) :
    Proceeds d t (ensureTable d t) link ((view link.server).Settled d t) fun report new link' =>
      report.success = true ∧ d.remaining t (view link.server) = .ok report.executed ∧ Sends report.executed new ∧
        (view link'.server).Settled d t := by
  have ha := Dialect.Accepts.of_createTable hb
  refine ((createDatabase_proceeds hh ha link).quieter Catalog.Settled.home).bind ?_
  rintro home new link₁ hx hm hc ⟨hhome, hsent, hhas, hsame⟩
  have hl₁ := legible_later hh hx hm ha.named hl
  refine ((createTable_proceeds hh hb hl₁).quieter fun h => hsame ▸ h.table).bind ?_
  rintro table more link₂ hx' hm' hc' ⟨hsent', hhas', hcase⟩
  have hl₂ := legible_later hh hx' hm' ha.named hl₁
  rw [hhas] at hhas'
  obtain ⟨hexecuted, hthere, hsame'⟩ | ⟨hexecuted, hnone, hmade⟩ := hcase
  · -- The table was there, so nothing has changed for its columns: those missing now were missing at the start.
    rw [if_pos (by rw [hexecuted]; rfl)]
    obtain ⟨names, hnames⟩ := Option.isSome_iff_exists.mp (hsame ▸ hthere)
    have hsame₂ := hsame'.trans hsame
    have hmissing := Table.missing_congr hsame₂
    refine Proceeds.bind ((addColumns_proceeds hh ha hl₂ (hsame' ▸ hthere)).quieter
      fun h => hmissing.trans h.missing) ?_
    rintro added most link₃ hx'' hm'' hc'' ⟨hadd, hsent'', hhas'', happended⟩
    rw [hmissing, hsame₂, hnames, Option.map_some] at happended
    have hsettled := Catalog.Settled.of_appended ha.named (hhas''.trans hhas') hnames happended
    have hl₃ := legible_later hh hx'' hm'' ha.named hl₂
    refine .after rfl ((reported_proceeds hh ha hl₃ hsettled.table _).mono ?_)
    rintro report last link₄ ⟨hreport, hok, hlast, hview⟩
    have hall := hsent.append (hsent'.append (hsent''.append (.of_asks hlast)))
    rw [hexecuted, List.nil_append, List.append_nil] at hall
    rw [hreport, hview, hexecuted, List.append_nil]
    refine ⟨hok, Except.bind_eq_ok.mpr ⟨_, hhome, Except.bind_eq_ok.mpr ⟨added.executed, ?_, rfl⟩⟩, hall, hsettled⟩
    rw [Dialect.tableStatements, hnames, ← hmissing]
    exact hadd
  · -- The table was made with all of its columns.
    rw [if_neg (by rw [hexecuted]; simp)]
    have hsettled := Catalog.Settled.of_created ha.named hhas' hmade
    refine .after rfl ((reported_proceeds hh ha hl₂ hsettled.table _).mono ?_)
    rintro report last link₃ ⟨hreport, hok, hlast, hview⟩
    have hall := hsent.append (hsent'.append (.of_asks hlast))
    rw [List.append_nil] at hall
    rw [hreport, hview, List.append_nil]
    refine ⟨hok, Except.bind_eq_ok.mpr ⟨_, hhome, Except.bind_eq_ok.mpr ⟨table.executed, ?_, rfl⟩⟩, hall, hsettled⟩
    rw [Dialect.tableStatements, ← hsame, hnone, hb, hexecuted]
    rfl

/-! ## One try after another -/

/-- A table converges. Over an honest server, a first try may end in any way and leave any part of its effects
undone. A second try in which nothing fails succeeds: it sends exactly the statements for what is missing and
leaves nothing missing. A third one only asks, whatever fails, and if nothing fails reports that nothing was
executed. -/
theorem ensureTable_converges (hh : Honest d t view) (hb : d.createTable t = .ok sql)
    (hl : (view link.server).Legible d t) :
    Ends (ensureTable d t) link fun _ _ link₁ =>
      ∀ link₂ : Link σ, (view link₂.server).Within (view link₁.server) →
        Ends (ensureTable d t) link₂ fun new r link₃ => (∀ e ∈ new, e.outcome = .done) →
          ∃ report, r = .ok report ∧ report.success = true ∧
            d.remaining t (view link₂.server) = .ok report.executed ∧ Sends report.executed new ∧
            (view link₃.server).Settled d t ∧
            ∀ link₄ : Link σ, view link₄.server = view link₃.server →
              Ends (ensureTable d t) link₄ fun more r' _ => Asks more ∧
                ((∀ e ∈ more, e.outcome = .done) → ∃ report', r' = .ok report' ∧ report'.executed = []) := by
  have hn := (Dialect.Accepts.of_createTable hb).named
  refine Ends.mono (ensureTable_proceeds hh hb hl) ?_
  -- All that the first try is needed for is that names stay legible, which holds however it ended.
  rintro first r₁ link₁ hx ⟨hm, -⟩ link₂ hwithin
  have hl₂ := (legible_later hh hx hm hn hl).of_within hwithin
  refine Ends.mono (ensureTable_proceeds hh hb hl₂) ?_
  rintro new (e | report) link₃ hx' ⟨hm', -, hr⟩ hdone
  · obtain ⟨e, he, hf⟩ := hr
    exact absurd (hdone e he) hf
  · obtain ⟨-, hok, hremaining, hsent, hsettled⟩ := hr
    refine ⟨report, rfl, hok, hremaining, hsent, hsettled, fun link₄ hview => ?_⟩
    have hl₄ : (view link₄.server).Legible d t := hview ▸ legible_later hh hx' hm' hn hl₂
    refine Ends.mono (ensureTable_proceeds hh hb hl₄) ?_
    rintro more r' link₅ - ⟨-, hquiet, hr'⟩
    have hasks := hquiet (hview ▸ hsettled)
    refine ⟨hasks, fun hdone' => ?_⟩
    cases r' with
    | error e =>
        obtain ⟨e, he, hf⟩ := hr'
        exact absurd (hdone' e he) hf
    | ok report' =>
        obtain ⟨-, -, -, hsent', -⟩ := hr'
        rw [Sends, sent_of_asks hasks] at hsent'
        exact ⟨report', rfl, List.map_eq_nil_iff.mp hsent'.symm⟩

/-! ## Tries over a keeper -/

/-- A try that fails and the next one, if it succeeds: the link between the two, the report, the link after. -/
def triedTwice (k : Keeper d t) : Option (Link (Keeper d t) × Report × Link (Keeper d t)) :=
  match ensureTable d t (.fresh k) with
  | .ok .. => none
  | .error _ link₁ =>
    match ensureTable d t link₁ with
    | .ok report link₂ => some (link₁, report, link₂)
    | .error .. => none

theorem triedTwice_eq_some {k : Keeper d t} {link₁ link₂ : Link (Keeper d t)} {report : Report}
    (h : triedTwice k = some (link₁, report, link₂)) :
    (∃ e, ensureTable d t (.fresh k) = .error e link₁) ∧ ensureTable d t link₁ = .ok report link₂ := by
  unfold triedTwice at h
  split at h
  · exact nomatch h
  · rename_i e link hrun
    split at h
    · rename_i hrun'
      cases h
      exact ⟨⟨e, hrun⟩, hrun'⟩
    · exact nomatch h

def plainTable (columns : List Column) : Table where
  database := .string "db"
  name := .string "t"
  columns
  comment := .null
  primaryKey := []
  engine := .null
  charset := .null
  fieldDelimiter := .null
  storedAs := .null
  orderBy := []
  partitionBy := .null
  cluster := .null
  ttl := none
  ttlUnit := .string "DAY"

def tableCatalog (columns : List String) : Catalog :=
  ⟨(· == "db"), fun x y => if x = "db" ∧ y = "t" then some columns else none⟩

def pairTable : Table := plainTable [.plain "a" "INT", .plain "b" "INT"]

/-- A catalog in which one of the two columns is missing; the statement for it, the eighth call, breaks. -/
def shakyKeeper : Keeper .mysql pairTable := ⟨tableCatalog ["a"], List.replicate 7 false ++ [true]⟩

theorem ensureTable_converges_after_break :
    Honest .mysql pairTable (fun k : Keeper .mysql pairTable => k.catalog) ∧
      (∃ sql, Dialect.createTable pairTable .mysql = .ok sql) ∧ shakyKeeper.catalog.Legible .mysql pairTable ∧
      ∃ e link₁ report link₂, ensureTable .mysql pairTable (.fresh shakyKeeper) = .error e link₁ ∧
        ensureTable .mysql pairTable link₁ = .ok report link₂ ∧
        report.executed = ["ALTER TABLE `db`.`t` ADD COLUMN `b` INT"] ∧
        link₂.server.catalog.Settled .mysql pairTable := by
  have hb : ∃ sql, Dialect.createTable pairTable .mysql = .ok sql := ⟨_, rfl⟩
  have hl : shakyKeeper.catalog.Legible .mysql pairTable := fun _ _ _ _ h => nomatch h
  have hh : Honest .mysql pairTable (fun k : Keeper .mysql pairTable => k.catalog) :=
    Keeper.honest (.of_createTable hb.choose_spec) (by decide)
  have hrun : (triedTwice shakyKeeper).map (fun tries => (tries.1.server.breaks, tries.2.1.executed))
      = some ([], ["ALTER TABLE `db`.`t` ADD COLUMN `b` INT"]) := by decide +kernel
  obtain ⟨⟨link₁, report, link₂⟩, htwice, hfound⟩ := Option.map_eq_some_iff.mp hrun
  obtain ⟨hbreaks, hexecuted⟩ := Prod.mk.inj hfound
  obtain ⟨⟨e, hfirst⟩, hsecond⟩ := triedTwice_eq_some htwice
  refine ⟨hh, hb, hl, e, link₁, report, link₂, hfirst, hsecond, hexecuted, ?_⟩
  obtain ⟨_, -, hnext⟩ := (ensureTable_converges hh hb.choose_spec hl).of_error hfirst
  obtain ⟨new, hx, hdone⟩ := (hnext link₁ (.refl _)).of_ok hsecond
  obtain ⟨_, -, -, -, -, hsettled, -⟩ := hdone (Keeper.done_of_breaks hbreaks hx.answered)
  exact hsettled

def singleTable : Table := plainTable [.plain "a" "INT"]

/-- A catalog in which nothing is missing, but an odd name comes before the column; the first call breaks. -/
def maskingKeeper : Keeper .hive singleTable := ⟨tableCatalog ["#x", "a"], [true]⟩

/-- Where the name of a column of Hive begins with a mark, columns after it are not seen: a try in which nothing
fails gives a table that lacks nothing a column again. -/
theorem ensureTable_repeats_column :
    Honest .hive singleTable (fun k : Keeper .hive singleTable => k.catalog) ∧
      (∃ sql, Dialect.createTable singleTable .hive = .ok sql) ∧
      ∃ e link₁ report link₂, ensureTable .hive singleTable (.fresh maskingKeeper) = .error e link₁ ∧
        link₁.server.catalog.Settled .hive singleTable ∧
        ensureTable .hive singleTable link₁ = .ok report link₂ ∧
        (∀ event ∈ link₂.events.drop link₁.events.length, event.outcome = .done) ∧
        report.executed = ["ALTER TABLE `db`.`t` ADD COLUMNS (`a` INT)"] := by
  have hb : ∃ sql, Dialect.createTable singleTable .hive = .ok sql := ⟨_, rfl⟩
  have hh : Honest .hive singleTable (fun k : Keeper .hive singleTable => k.catalog) :=
    Keeper.honest (.of_createTable hb.choose_spec) (by decide)
  have hrun : (triedTwice maskingKeeper).map (fun tries =>
        (decide (tries.1.server.catalog.Settled .hive singleTable),
          decide (∀ event ∈ tries.2.2.events.drop tries.1.events.length, event.outcome = .done), tries.2.1.executed))
      = some (true, true, ["ALTER TABLE `db`.`t` ADD COLUMNS (`a` INT)"]) := by decide +kernel
  obtain ⟨⟨link₁, report, link₂⟩, htwice, hfound⟩ := Option.map_eq_some_iff.mp hrun
  obtain ⟨hsettled, hrest⟩ := Prod.mk.inj hfound
  obtain ⟨hdone, hexecuted⟩ := Prod.mk.inj hrest
  obtain ⟨⟨e, hfirst⟩, hsecond⟩ := triedTwice_eq_some htwice
  exact ⟨hh, hb, e, link₁, report, link₂, hfirst, of_decide_eq_true hsettled, hsecond,
    of_decide_eq_true hdone, hexecuted⟩

end Task

end SinkKeeper
