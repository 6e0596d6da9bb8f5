import SinkKeeper.Proofs.Refusals
import SinkKeeper.Web.App

/-!
# What is observed

The columns that a table is observed to have hold texts and flags, whatever rows an engine gives. So a report of them
holds no number that is infinite or none. Rows that are not as an engine gives them are complained about.
-/

namespace SinkKeeper

/-! ## Documents without endless numbers -/

namespace Json

theorem areFinite_iff {items : List Json} : areFinite items = true ↔ ∀ item ∈ items, item.isFinite = true := by
  induction items with
  | nil => simp [areFinite]
  | cons item items ih => simp [areFinite, ih]

theorem areFieldsFinite_iff {fields : Fields} : areFieldsFinite fields = true ↔ ∀ p ∈ fields, p.2.isFinite = true := by
  induction fields with
  | nil => simp [areFieldsFinite]
  | cons p fields ih => simp [areFieldsFinite, ih]

theorem IsText.isFinite {j : Json} (h : j.IsText) : j.isFinite = true := by
  obtain rfl | ⟨s, rfl⟩ := h <;> rfl

theorem IsText.optional (o : Option String) : (Json.optional o).IsText := by
  cases o with
  | none => exact .inl rfl
  | some s => exact .inr ⟨s, rfl⟩

end Json

namespace Web

mutual
theorem isFinite_publicPart : ∀ {j : Json}, j.isFinite = true → (publicPart j).isFinite = true
  | .array _, h => areFinite_publicItems h
  | .object _, h => areFieldsFinite_publicFields h
  | .null, h | .bool _, h | .number _, h | .string _, h => h

theorem areFinite_publicItems : ∀ {items : List Json}, Json.areFinite items = true →
    Json.areFinite (publicItems items) = true
  | [], h => h
  | item :: items, h => by
      rw [Json.areFinite, Bool.and_eq_true] at h
      rw [publicItems, Json.areFinite, isFinite_publicPart h.1, areFinite_publicItems h.2]
      rfl

theorem areFieldsFinite_publicFields : ∀ {fields : Json.Fields}, Json.areFieldsFinite fields = true →
    Json.areFieldsFinite (publicFields fields) = true
  | [], h => h
  | (name, value) :: fields, h => by
      rw [Json.areFieldsFinite, Bool.and_eq_true] at h
      rw [publicFields]
      split
      · exact areFieldsFinite_publicFields h.2
      · rw [Json.areFieldsFinite, isFinite_publicPart h.1, areFieldsFinite_publicFields h.2]
        rfl
end

end Web

/-! ## What comes of rows -/

/-- A result comes as `Q` tells, or an error as `P` tells. -/
def Comes {ε α : Type} (P : ε → Prop) (Q : α → Prop) (x : Except ε α) : Prop :=
  Fails P x ∧ ∀ a, x = .ok a → Q a

section Comes

variable {ε α β : Type} {P : ε → Prop} {Q : α → Prop} {Q' : β → Prop} {x : Except ε α} {f : α → Except ε β}

theorem Comes.ok {a : α} (h : Q a) : Comes P Q (.ok a) := by
  refine ⟨.ok, fun b hb => ?_⟩
  cases hb
  exact h

theorem Comes.error {e : ε} (h : P e) : Comes P Q (.error e) := ⟨.error h, fun _ ha => nomatch ha⟩

theorem Comes.bind (hx : Comes P Q x) (hf : ∀ a, Q a → Comes P Q' (f a)) : Comes P Q' (x >>= f) := by
  cases x with
  | error e => exact .error (hx.1 e rfl)
  | ok a => exact hf a (hx.2 a rfl)

theorem Comes.map {g : α → β} (hx : Comes P (fun a => Q' (g a)) x) : Comes P Q' (x.map g) := by
  cases x with
  | error e => exact .error (hx.1 e rfl)
  | ok a => exact .ok (hx.2 a rfl)

end Comes

/-- A column as an engine reports it: with texts, or null, where a description may have anything. -/
structure Column.Observed (c : Column) : Prop where
  name : c.name.IsText
  type : c.type.IsText
  comment : c.comment.IsText
  defaultKind : c.defaultKind.IsText
  defaultExpr : c.defaultExpr.IsText
  codec : c.codec.IsText
  ttlExpr : c.ttlExpr.IsText

theorem Column.Observed.fields {c : Column} (h : c.Observed) :
    ∀ p ∈ c.fields, p.2.IsText ∨ ∃ b, p.2 = .bool b := by
  simp only [Column.fields, List.forall_mem_cons]
  exact ⟨.inl h.name, .inl h.type, .inl h.comment, .inr ⟨_, rfl⟩, .inl (.optional _), .inl h.defaultKind,
    .inl h.defaultExpr, .inl h.codec, .inl h.ttlExpr, .inr ⟨_, rfl⟩, List.forall_mem_nil _⟩

theorem Column.Observed.isFinite {c : Column} (h : c.Observed) : c.toJson.isFinite = true := by
  refine Json.areFieldsFinite_iff.mpr fun p hp => ?_
  obtain htext | ⟨b, hflag⟩ := h.fields p (List.mem_of_mem_filter hp)
  · exact htext.isFinite
  · rw [hflag]
    rfl

theorem Web.isFinite_report {r : Report} (h : ∀ c ∈ r.columns, c.Observed) : (reportResponse r).isFinite = true := by
  have hcolumns : ∀ j ∈ r.columns.map Column.toJson, j.isFinite = true :=
    List.forall_mem_map.mpr fun c hc => (h c hc).isFinite
  have htexts : ∀ texts : List String, ∀ j ∈ texts.map Json.string, j.isFinite = true :=
    fun texts => List.forall_mem_map.mpr fun _ _ => rfl
  have hoptional : ∀ o : Option String, (Json.optional o).isFinite = true := fun o => (Json.IsText.optional o).isFinite
  refine isFinite_publicPart ?_
  simp only [Report.toJson, Json.isFinite, Json.areFieldsFinite, Json.areFinite_iff.mpr hcolumns,
    Json.areFinite_iff.mpr (htexts _), hoptional, Bool.and_true]

/-- A complaint about a row that is not as an engine gives it. -/
inductive Row.Complaint : ShapeError → Prop
  | short {fetched : Bool} : Complaint (.shortRow fetched)
  | cell {kind : Json.Kind} : Complaint (.noOperation kind "strip")

section Rows

variable {d : Dialect} {row : Row} {rows : List Row}

theorem Row.cell_comes (row : Row) (i : Nat) : Comes Row.Complaint (fun _ => True) (row.cell i) := by
  unfold Row.cell
  split
  · exact .ok trivial
  · exact .error .short

theorem rowsContain_complains (name : String) : Fails Row.Complaint (d.rowsContain rows (.string name)) := by
  cases d with
  | mysql | clickhouse => exact .ok
  | hive =>
      rw [Dialect.rowsContain]
      induction rows with
      | nil => exact .ok
      | cons row rows ih =>
          have hrow : Fails Row.Complaint (Hive.rowNames (.string name) row) :=
            (row.cell_comes 0).1.bind fun _ _ => Fails.ok.bind fun _ _ => .ok
          refine hrow.bind fun found _ => ?_
          split
          · exact .ok
          · exact ih

theorem endsColumns_complains : Fails Row.Complaint (d.endsColumns row) := by
  cases d with
  | mysql | clickhouse => exact .ok
  | hive =>
      refine (row.cell_comes 0).1.bind fun cell _ => ?_
      dsimp only
      split
      · exact .ok
      · exact .error .cell

theorem Mysql.columnOfRow_comes : Comes Row.Complaint Column.Observed (Mysql.columnOfRow row) :=
  (row.cell_comes 0).bind fun _ _ => (row.cell_comes 1).bind fun _ _ => (row.cell_comes 2).bind fun _ _ =>
    (row.cell_comes 3).bind fun _ _ => (row.cell_comes 4).bind fun _ _ =>
      .ok ⟨.inr ⟨_, rfl⟩, .inr ⟨_, rfl⟩, .optional _, .inl rfl, .inl rfl, .inl rfl, .inl rfl⟩

theorem Hive.columnOfRow_comes : Comes Row.Complaint Column.Observed (Hive.columnOfRow row) :=
  (row.cell_comes 0).bind fun _ _ => (row.cell_comes 1).bind fun _ _ => (row.cell_comes 2).bind fun _ _ =>
    .ok ⟨.inr ⟨_, rfl⟩, .inr ⟨_, rfl⟩, .optional _, .inl rfl, .inl rfl, .inl rfl, .inl rfl⟩

theorem Clickhouse.columnOfRow_comes :
    Comes Row.Complaint (fun column => ∀ c ∈ column, c.Observed) (Clickhouse.columnOfRow row) := by
  unfold Clickhouse.columnOfRow
  refine (row.cell_comes 0).bind fun name _ => ?_
  have hcells : Comes Row.Complaint (fun column : Option Column => ∀ c ∈ column, c.Observed) (do
      let type ← row.cell 1
      let kind ← row.cell 2
      let expression ← row.cell 3
      let comment ← row.cell 4
      let codec ← row.cell 5
      let ttl ← row.cell 6
      return some { Column.plain name.text type.text with
        defaultKind := .optional (textIfAny kind)
        defaultExpr := .optional (textIfAny expression)
        comment := .optional (textIfAny comment)
        codec := .optional (textIfAny codec)
        ttlExpr := .optional (textIfAny ttl) }) := by
    refine (row.cell_comes 1).bind fun _ _ => (row.cell_comes 2).bind fun _ _ => (row.cell_comes 3).bind fun _ _ => ?_
    refine (row.cell_comes 4).bind fun _ _ => (row.cell_comes 5).bind fun _ _ => (row.cell_comes 6).bind fun _ _ => ?_
    refine .ok fun c hc => ?_
    cases hc
    exact ⟨.inr ⟨_, rfl⟩, .inr ⟨_, rfl⟩, .optional _, .optional _, .optional _, .optional _, .optional _⟩
  dsimp only
  split
  · split
    · exact .ok fun _ hc => nomatch hc
    · exact hcells
  · exact hcells

theorem columnOfRow_comes : Comes Row.Complaint (fun column => ∀ c ∈ column, c.Observed) (d.columnOfRow row) := by
  have hsome : ∀ {x : Except ShapeError Column}, Comes Row.Complaint Column.Observed x →
      Comes Row.Complaint (fun column => ∀ c ∈ column, c.Observed) (x.map some) := by
    intro x hx
    refine .map ⟨hx.1, fun c hc c' hc' => ?_⟩
    cases hc'
    exact hx.2 c hc
  cases d with
  | mysql => exact hsome Mysql.columnOfRow_comes
  | hive => exact hsome Hive.columnOfRow_comes
  | clickhouse => exact Clickhouse.columnOfRow_comes

theorem columnsOfRows_comes :
    Comes Row.Complaint (fun columns => ∀ c ∈ columns, c.Observed) (d.columnsOfRows rows) := by
  induction rows with
  | nil => exact .ok (List.forall_mem_nil _)
  | cons row rows ih =>
      have hends : Comes Row.Complaint (fun _ => True) (d.endsColumns row) :=
        ⟨endsColumns_complains, fun _ _ => trivial⟩
      refine hends.bind fun ends _ => ?_
      split
      · exact .ok (List.forall_mem_nil _)
      · refine columnOfRow_comes.bind fun column hcolumn => ih.bind fun columns hcolumns => .ok ?_
        exact List.forall_mem_append.mpr ⟨fun c hc => hcolumn c (Option.mem_toList.mp hc), hcolumns⟩

end Rows

end SinkKeeper
