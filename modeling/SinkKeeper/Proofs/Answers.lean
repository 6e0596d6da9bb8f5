import SinkKeeper.Proofs.Accepted
import SinkKeeper.Proofs.Proceeds

/-!
# Asking honest servers

What is read off the rows of an honest server is what its catalog holds. Asking leaves the catalog as it is, so
one question after another can be put to it.
-/

namespace SinkKeeper

variable {d : Dialect} {t : Table} {row : Row} {rows : List Row} {name : String} {names : List String} {n : Nat}

/-! ## Rows -/

theorem Row.Names.cell_zero (h : row.Names n name) : row.cell 0 = .ok (.string name) := by
  obtain ⟨cells, hc, -⟩ := h
  simp [Row.cell, hc]

theorem Row.Names.cell (h : row.Names n name) {i : Nat} (hi : i ≤ n) : ∃ cell, row.cell i = .ok cell := by
  obtain ⟨cells, hc, hn⟩ := h
  have hlt : i < row.cells.length := by
    rw [hc, List.length_cons]
    omega
  exact ⟨row.cells[i], by rw [Row.cell, List.getElem?_eq_getElem hlt]⟩

theorem Hive.rowsContain_eq (h : ∀ row ∈ rows, ∃ cell, row.cell 0 = .ok cell) :
    ∃ found, Hive.rowsContain (.string name) rows = .ok found ∧
      (found = true ↔ ∃ row ∈ rows, ∃ cell, row.cell 0 = .ok cell ∧
        Text.lower (Text.strip cell.text) = Text.lower name) := by
  induction rows with
  | nil => exact ⟨false, rfl, by simp⟩
  | cons row rows ih =>
      obtain ⟨⟨cell, hc⟩, hrest⟩ := List.forall_mem_cons.mp h
      obtain ⟨found, hf, hiff⟩ := ih hrest
      have hnames : Hive.rowNames (.string name) row
          = .ok (Text.lower (Text.strip cell.text) == Text.lower name) := by
        simp only [Hive.rowNames, hc]
        rfl
      by_cases heq : Text.lower (Text.strip cell.text) = Text.lower name
      · refine ⟨true, ?_, fun _ => ⟨row, List.mem_cons_self, cell, hc, heq⟩, fun _ => rfl⟩
        rw [Hive.rowsContain, hnames, beq_iff_eq.mpr heq]
        rfl
      · refine ⟨found, ?_, hiff.trans ?_⟩
        · rw [Hive.rowsContain, hnames, beq_eq_false_iff_ne.mpr heq]
          exact hf
        · rw [List.exists_mem_cons_iff, hc]
          simp [heq]

theorem Dialect.Answers.rowsContain {present : String → Prop} (h : d.Answers rows name present) :
    ∃ found, d.rowsContain rows (.string name) = .ok found ∧ (found = true ↔ present (d.fold name)) := by
  cases d with
  | hive =>
      obtain ⟨hall, hwanted⟩ := h
      obtain ⟨found, hf, hiff⟩ := Hive.rowsContain_eq fun row hr => (hall row hr).imp fun _ hc => hc.1
      refine ⟨found, hf, hiff.trans ⟨?_, hwanted⟩⟩
      rintro ⟨row, hr, cell, hc, heq⟩
      obtain ⟨cell', hc', hp⟩ := hall row hr
      cases hc.symm.trans hc'
      rw [heq] at hp
      exact hp
  | mysql =>
      have hany : rows ≠ [] ↔ present name := h
      exact ⟨_, rfl, by simpa [Dialect.fold] using hany⟩
  | clickhouse =>
      have hany : rows ≠ [] ↔ present name := h
      exact ⟨_, rfl, by simpa [Dialect.fold] using hany⟩

/-! ## Describe rows -/

theorem Dialect.columnsOfRows_cons {c : Option Column} {columns : List Column}
    (he : d.endsColumns row = .ok false) (hc : d.columnOfRow row = .ok c)
    (hr : d.columnsOfRows rows = .ok columns) : d.columnsOfRows (row :: rows) = .ok (c.toList ++ columns) := by
  rw [columnsOfRows, he]
  simp only [bind, Except.bind, hc, hr]
  rfl

theorem Mysql.columnOfRow_ok (h : row.Names 4 name) : ∃ column, Mysql.columnOfRow row = .ok column := by
  obtain ⟨type, h1⟩ := h.cell (i := 1) (by omega)
  obtain ⟨comment, h2⟩ := h.cell (i := 2) (by omega)
  obtain ⟨nullable, h3⟩ := h.cell (i := 3) (by omega)
  obtain ⟨default, h4⟩ := h.cell (i := 4) (by omega)
  simp only [Mysql.columnOfRow, h.cell_zero, h1, h2, h3, h4]
  exact ⟨_, rfl⟩

theorem Clickhouse.columnOfRow_ok (h : row.Names 6 name) : ∃ column, Clickhouse.columnOfRow row = .ok column := by
  obtain ⟨type, h1⟩ := h.cell (i := 1) (by omega)
  obtain ⟨kind, h2⟩ := h.cell (i := 2) (by omega)
  obtain ⟨expression, h3⟩ := h.cell (i := 3) (by omega)
  obtain ⟨comment, h4⟩ := h.cell (i := 4) (by omega)
  obtain ⟨codec, h5⟩ := h.cell (i := 5) (by omega)
  obtain ⟨ttl, h6⟩ := h.cell (i := 6) (by omega)
  simp only [Clickhouse.columnOfRow, h.cell_zero, h1, h2, h3, h4, h5, h6]
  by_cases hr : name = Clickhouse.retentionColumn
  · exact ⟨none, by simp [bind, Except.bind, hr, pure, Except.pure]⟩
  · exact ⟨_, by simp [bind, Except.bind, hr]; rfl⟩

theorem Hive.columnOfRow_ok (h : row.Names 2 name) :
    ∃ column, Hive.columnOfRow row = .ok column ∧ column.name = .string (Text.strip name) := by
  obtain ⟨type, h1⟩ := h.cell (i := 1) (by omega)
  obtain ⟨comment, h2⟩ := h.cell (i := 2) (by omega)
  simp only [Hive.columnOfRow, h.cell_zero, h1, h2]
  exact ⟨_, rfl, rfl⟩

theorem Hive.endsColumns_eq (h : row.Names n name) : Hive.endsColumns row =
    .ok (Text.strip name == "" || Text.startsWith (Text.strip name) "#") := by
  simp only [Hive.endsColumns, h.cell_zero]
  by_cases hn : name = ""
  · subst hn
    rfl
  · have ht : (Json.string name).orElse (.string "") = .string name := by simp [Json.orElse, Json.isTruthy, hn]
    simp only [bind, Except.bind, ht]
    rfl

theorem Dialect.exists_columnsOfRows
    (h : ∀ row ∈ rows, d.endsColumns row = .ok false ∧ ∃ c, d.columnOfRow row = .ok c) :
    ∃ columns, d.columnsOfRows rows = .ok columns := by
  induction rows with
  | nil => exact ⟨[], rfl⟩
  | cons row rows ih =>
      obtain ⟨⟨he, c, hc⟩, hrest⟩ := List.forall_mem_cons.mp h
      obtain ⟨columns, hr⟩ := ih hrest
      exact ⟨_, Dialect.columnsOfRows_cons he hc hr⟩

theorem Hive.columnsOfRows_end (h : ∀ row ∈ rows.head?, Hive.Ends row) :
    Dialect.hive.columnsOfRows rows = .ok [] := by
  cases rows with
  | nil => rfl
  | cons row rows =>
      obtain ⟨mark, hmark, hend⟩ := h row rfl
      have he : Hive.endsColumns row = .ok true := by
        rw [Hive.endsColumns_eq hmark]
        simpa using hend
      rw [Dialect.columnsOfRows, Dialect.endsColumns, he]
      rfl

theorem Hive.columnsOfRows_append {tail : List Row}
    (h : List.Forall₂ (fun row name => ∃ shown, row.Names 2 shown ∧ Text.strip shown = Text.strip name) rows names)
    (hl : ∀ name ∈ names, Dialect.hive.Legible name) (ht : Dialect.hive.columnsOfRows tail = .ok []) :
    ∃ columns, Dialect.hive.columnsOfRows (rows ++ tail) = .ok columns ∧
      columns.map (·.name) = names.map .string := by
  induction h with
  | nil => exact ⟨[], ht, rfl⟩
  | @cons row name rows names hrow _ ih =>
      obtain ⟨hlegible, hrest⟩ := List.forall_mem_cons.mp hl
      obtain ⟨columns, hc, hnames⟩ := ih hrest
      obtain ⟨shown, hshown, hstrip⟩ := hrow
      obtain ⟨hbare, hne, hmark⟩ := hlegible rfl
      obtain ⟨column, hcol, hname⟩ := Hive.columnOfRow_ok hshown
      -- A name that can be read neither is blank nor begins with a mark, so its row does not end the columns.
      have he : Hive.endsColumns row = .ok false := by
        rw [Hive.endsColumns_eq hshown, hstrip, hbare, hmark]
        simpa using hne
      have hrow : Dialect.hive.columnOfRow row = .ok (some column) := by
        rw [Dialect.columnOfRow, hcol]
        rfl
      refine ⟨_, Dialect.columnsOfRows_cons he hrow hc, ?_⟩
      rw [Option.toList_some, List.singleton_append, List.map_cons, hname, hstrip, hbare, hnames]
      rfl

/-- Describe rows are read, and those of Hive give the names in the catalog. -/
theorem Dialect.Describes.columnsOfRows (h : d.Describes rows names) (hl : ∀ name ∈ names, d.Legible name) :
    ∃ columns, d.columnsOfRows rows = .ok columns ∧ (d = .hive → columns.map (·.name) = names.map .string) := by
  cases d with
  | mysql =>
      have hrows : ∀ row ∈ rows, ∃ name, row.Names 4 name := exists_of_forall₂ h
      obtain ⟨columns, hc⟩ := Dialect.exists_columnsOfRows (d := .mysql) fun row hr => by
        obtain ⟨name, hname⟩ := hrows row hr
        obtain ⟨column, hcol⟩ := Mysql.columnOfRow_ok hname
        exact ⟨rfl, some column, by rw [Dialect.columnOfRow, hcol]; rfl⟩
      exact ⟨columns, hc, fun hd => nomatch hd⟩
  | clickhouse =>
      have hrows : ∀ row ∈ rows, ∃ name, row.Names 6 name := exists_of_forall₂ h
      obtain ⟨columns, hc⟩ := Dialect.exists_columnsOfRows (d := .clickhouse) fun row hr => by
        obtain ⟨name, hname⟩ := hrows row hr
        exact ⟨rfl, Clickhouse.columnOfRow_ok hname⟩
      exact ⟨columns, hc, fun hd => nomatch hd⟩
  | hive =>
      obtain ⟨body, tail, rfl, hbody, htail⟩ := h
      obtain ⟨columns, hc, hnames⟩ := Hive.columnsOfRows_append hbody hl (Hive.columnsOfRows_end htail)
      exact ⟨columns, hc, fun _ => hnames⟩

/-! ## Questions -/

namespace Task

variable {σ : Type} [Server σ] {view : σ → Catalog} {link : Link σ} {quiet : Prop}

section After

variable {new : List Event} {link' : Link σ} (hh : Honest d t view) (hx : link.Extends new link')
  (hm : ∀ e ∈ new, d.Makes t e.call)

include hh hx hm

theorem legible_later (hn : t.Named) (hl : (view link.server).Legible d t) :
    (view link'.server).Legible d t := by
  rw [hx.server]
  exact hh.legible_after hn hl hx.answered hm

theorem view_of_sends (hc : Clean new) {statements : List String} {ddls : List Ddl} (hs : Sends statements new)
    (hb : List.Forall₂ (d.Builds t) statements ddls) : view link'.server = applied ddls (view link.server) := by
  rw [hx.server]
  refine hh.view_after hx.answered hm hc ?_
  rw [hs]
  exact List.forall₂_map_left_iff.mpr hb

/-- Asking leaves the catalog as it is. -/
theorem view_of_asks (hc : Clean new) (ha : Asks new) : view link'.server = view link.server :=
  view_of_sends hh hx hm hc (.of_asks ha) .nil

end After

theorem databaseExists_proceeds (hh : Honest d t view) (ha : d.Accepts t) (link : Link σ) :
    Proceeds d t (databaseExists d t.database) link quiet fun found new _ =>
      Asks new ∧ found = (view link.server).hasHome d t := by
  obtain ⟨name, hname, hi⟩ := ha.database
  have htext : t.database.text = name := by rw [hname]; rfl
  refine .after (a := name) (by rw [Sql.checkName_eq_ok.mpr ⟨hname, hi⟩]; rfl) ?_
  refine (fetch_proceeds _ _ link).bind ?_
  rintro rows new link' - - - ⟨hasks, hrows⟩
  have hanswers := hh.database link.server rows hrows
  rw [htext] at hanswers
  obtain ⟨found, hf, hiff⟩ := hanswers.rowsContain
  refine .after (a := found) (by rw [hname, hf]; rfl) (.afterNote fun _ _ => .pure ?_)
  rw [List.append_nil]
  refine ⟨hasks, Bool.eq_iff_iff.mpr (hiff.trans ?_)⟩
  rw [Catalog.hasHome, htext]

theorem tableExists_proceeds (hh : Honest d t view) (ha : d.Accepts t) (link : Link σ) :
    Proceeds d t (tableExists d t.database t.name) link quiet fun found new _ =>
      Asks new ∧ found = ((view link.server).columnsOf d t).isSome := by
  obtain ⟨database, hdb, hdbi⟩ := ha.database
  obtain ⟨name, hname, hi⟩ := ha.table
  obtain ⟨query, hquery⟩ := ha.tableExists
  have htext : t.name.text = name := by rw [hname]; rfl
  refine .after (a := database) (by rw [Sql.checkName_eq_ok.mpr ⟨hdb, hdbi⟩]; rfl) ?_
  refine .after (a := name) (by rw [Sql.checkName_eq_ok.mpr ⟨hname, hi⟩]; rfl) ?_
  refine .after (a := query) (by rw [hquery]; rfl) ?_
  refine (fetch_proceeds _ _ link).bind ?_
  rintro rows new link' - - - ⟨hasks, hrows⟩
  have hanswers := hh.table link.server query rows hquery hrows
  rw [htext] at hanswers
  obtain ⟨found, hf, hiff⟩ := hanswers.rowsContain
  refine .after (a := found) (by rw [hname, hf]; rfl) (.afterNote fun _ _ => .pure ?_)
  rw [List.append_nil]
  refine ⟨hasks, Bool.eq_iff_iff.mpr (hiff.trans ?_)⟩
  rw [Catalog.columnsOf, htext]

theorem columns_proceeds (hh : Honest d t view) (ha : d.Accepts t) (hl : (view link.server).Legible d t)
    (hn : (view link.server).columnsOf d t = some names) :
    Proceeds d t (columns d t.database t.name) link quiet fun columns new _ =>
      Asks new ∧ (d = .hive → columns.map (·.name) = names.map .string) := by
  obtain ⟨sql, hsql⟩ := ha.describeTable
  refine .after (a := sql) (by rw [hsql]; rfl) ?_
  refine (fetch_proceeds _ _ link).bind ?_
  rintro rows new link' - - - ⟨hasks, hrows⟩
  obtain ⟨columns, hc, hnames⟩ := (hh.describe link.server sql rows names hsql hrows hn).columnsOfRows (hl names hn)
  rw [hc]
  refine Proceeds.pure ?_
  rw [List.append_nil]
  exact ⟨hasks, hnames⟩

theorem namesColumn_eq {columns : List Column} (h : columns.map (·.name) = names.map .string) (name : String) :
    namesColumn name columns = names.any fun n => Text.lower n == Text.lower name := by
  have hm : namesColumn name columns = (columns.map (·.name)).any fun n => Text.lower n.text == Text.lower name := by
    rw [List.any_map]
    rfl
  rw [hm, h, List.any_map]
  rfl

theorem columnExists_proceeds (hh : Honest d t view) (ha : d.Accepts t) (hl : (view link.server).Legible d t)
    (hn : ((view link.server).columnsOf d t).isSome = true) {column : Column} (hc : column ∈ t.columns) :
    Proceeds d t (columnExists d t.database t.name column.name) link quiet fun found new _ =>
      Asks new ∧ found = (view link.server).hasColumn d t column.name.text := by
  obtain ⟨names, hnames⟩ := Option.isSome_iff_exists.mp hn
  obtain ⟨name, hname, hi⟩ := ha.named column hc
  refine .after (a := name) (by rw [Sql.checkName_eq_ok.mpr ⟨hname, hi⟩]; rfl) ?_
  split
  · rename_i query hq
    refine (fetch_proceeds _ _ link).bind ?_
    rintro rows new link' - - - ⟨hasks, hrows⟩
    refine .after rfl (.afterNote fun _ _ => .pure ?_)
    rw [List.append_nil]
    refine ⟨hasks, Bool.eq_iff_iff.mpr ?_⟩
    rw [← hh.column link.server query rows column hc hq hrows]
    simp
  · rename_i hq
    have hd : d = .hive := by
      cases d with
      | hive => rfl
      | mysql => exact nomatch hq
      | clickhouse => exact nomatch hq
    refine (columns_proceeds hh ha hl hnames).bind ?_
    rintro columns new link' - - - ⟨hasks, hsame⟩
    refine .after rfl (.afterNote fun _ _ => .pure ?_)
    rw [List.append_nil]
    refine ⟨hasks, (namesColumn_eq (hsame hd) name).trans ?_⟩
    rw [Catalog.hasColumn, hnames, hname, hd]
    rfl

theorem missingOf_proceeds (hh : Honest d t view) (ha : d.Accepts t) (hl : (view link.server).Legible d t)
    (hn : ((view link.server).columnsOf d t).isSome = true) {columns : List Column} (hs : columns ⊆ t.columns) :
    Proceeds d t (missingOf d t columns) link quiet fun missing new _ =>
      Asks new ∧ missing = columns.filter fun column => !(view link.server).hasColumn d t column.name.text := by
  induction columns generalizing link with
  | nil => exact .pure ⟨List.forall_mem_nil _, rfl⟩
  | cons column columns ih =>
      obtain ⟨hc, hrest⟩ := List.cons_subset.mp hs
      refine (columnExists_proceeds hh ha hl hn hc).bind ?_
      rintro found new link' hx hm hclean ⟨hasks, rfl⟩
      -- Asking for one column leaves the catalog, so the others are asked of the same one.
      have hview := view_of_asks hh hx hm hclean hasks
      rw [← hview] at hl hn
      refine (ih hl hn hrest).bind ?_
      rintro missing more link'' - - - ⟨hmore, rfl⟩
      refine .pure ?_
      rw [List.append_nil, hview, List.filter_cons]
      refine ⟨List.forall_mem_append.mpr ⟨hasks, hmore⟩, ?_⟩
      cases (view link.server).hasColumn d t column.name.text <;> rfl

end Task

end SinkKeeper
