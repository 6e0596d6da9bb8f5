import SinkKeeper.Proofs.Builders
import SinkKeeper.Proofs.Lexing

/-!
# Statements are closed

Every statement that a builder writes is one whole: whatever names, types, expressions and texts a table is
described with, the statement is read to its end outside of names and literals, nothing in it ends a statement
or begins a comment, and each comment and default value is one of its literals.
-/

namespace SinkKeeper

open SinkKeeper.Sql

/-! ## Rendered texts -/

def Json.rendered (j : Json) : List String := if j.isTruthy then [j.text] else []

def Column.rendered (c : Column) : Dialect → List String
  | .mysql => c.defaultValue.toList ++ c.comment.rendered
  | .hive => c.comment.rendered
  | .clickhouse => (if c.defaultExpr.isTruthy then [] else c.defaultValue.toList) ++ c.comment.rendered

/-- The default values and comments of a table, in the order in which they are rendered. -/
def Table.rendered (t : Table) : Dialect → List String
  | .hive =>
    (t.columns.filter (!·.partition)).flatMap (·.rendered .hive) ++ t.comment.rendered
      ++ (t.columns.filter (·.partition)).flatMap (·.rendered .hive)
  | d => t.columns.flatMap (·.rendered d) ++ t.comment.rendered

/-- The columns that are appended by one statement each, or by the same statement. -/
def Dialect.batches (columns : List Column) : Dialect → List (List Column)
  | .hive => if columns.isEmpty then [] else [columns]
  | _ => columns.map ([·])

/-! ## Pieces -/

variable {kind : String} {j : Json} {s : String}

theorem isPlain_of_isWordChar {c : Char} (h : isWordChar c = true) : isPlain c = true ∧ c ≠ '\x60' := by
  have hne : ∀ d : Char, isWordChar d = false → c ≠ d := by
    rintro d hd rfl
    exact absurd h (by simp [hd])
  have h₁ := hne '-' rfl
  have h₂ := hne '*' rfl
  have h₃ := hne '/' rfl
  have h₄ := hne ';' rfl
  have h₅ := hne '\x5c' rfl
  have h₆ := hne '\x60' rfl
  have h₇ := hne '\x27' rfl
  simp [isPlain, h₁, h₂, h₃, h₄, h₅, h₆, h₇]

theorem toList_quoted (name : String) : (quoted name).toList = '\x60' :: (name.toList ++ ['\x60']) := by
  rw [quoted, String.toList_append, String.toList_append]
  rfl

theorem ne_backtick_of_isName (h : isName s.toList = true) : ∀ c ∈ s.toList, c ≠ '\x60' := by
  simp only [isName, Bool.and_eq_true, List.all_eq_true] at h
  intro c hc
  exact (isPlain_of_isWordChar (h.2 c hc)).2

theorem whole_quoted (h : isName s.toList = true) : Whole (quoted s) [] where
  scans := by
    rw [toList_quoted]
    exact scan_name not_breaks_backtick (ne_backtick_of_isName h)
  soft := by
    rw [toList_quoted]
    rfl
  reads := List.nil_sublist _

theorem whole_quoteName (h : quoteName kind j = .ok s) : Whole s [] := by
  obtain ⟨name, ⟨-, hn⟩, rfl⟩ := quoteName_eq_ok.mp h
  exact whole_quoted hn

theorem whole_quoteTable {database table : Json} (h : quoteTable database table = .ok s) : Whole s [] := by
  obtain ⟨d, ⟨-, hd⟩, t, ⟨-, ht⟩, rfl⟩ := quoteTable_eq_ok.mp h
  exact ((whole_quoted hd).append (.plain _ rfl)).append (whole_quoted ht)

theorem Sql.AllWhole.of_forall₂ {α : Type} {R : α → String → Prop} {rendered : α → List String} {xs : List α}
    {ss : List String} (h : List.Forall₂ R xs ss) (hr : ∀ x s, R x s → Whole s (rendered x)) :
    AllWhole ss (xs.flatMap rendered) := by
  induction h with
  | nil => exact .nil
  | cons hx _ ih => exact .cons (hr _ _ hx) ih

theorem whole_quoteNames {names : List Json} (h : quoteNames kind names = .ok s) : Whole s [] := by
  obtain ⟨quotes, hq, rfl⟩ := quoteNames_eq_ok.mp h
  have ha := AllWhole.of_forall₂ hq (fun _ s h => (whole_quoteName h : Whole s []))
  rw [List.flatMap_eq_nil_iff.mpr fun _ _ => rfl] at ha
  exact ha.join ", " rfl

theorem isSoft_of_isTypeText {cs : List Char} (h : isTypeText cs = true) : isSoft cs = true := by
  cases cs with
  | nil => rfl
  | cons c rest =>
      simp only [isTypeText, Bool.and_eq_true] at h
      have hw : isWordChar c = true := by simp [isWordChar, h.1]
      have hp := (isPlain_of_isWordChar hw).1
      simp [isPlain] at hp
      simp [isSoft, hp]

theorem whole_type (h : checkType j = .ok s) : Whole s [] := by
  obtain ⟨type, ⟨-, ht⟩, rfl⟩ := checkType_eq_ok.mp h
  simp only [isType, Bool.and_eq_true, Bool.not_eq_true'] at ht
  refine ⟨scan_strip ht.1.2 ht.2, ?_, List.nil_sublist _⟩
  rw [Text.strip, String.toList_ofList]
  exact isSoft_of_isTypeText ht.1.1

theorem scan_expression (h : checkExpression kind j = .ok s) : scan breaks .outside s.toList = some .outside := by
  obtain ⟨text, ⟨-, ht⟩, rfl⟩ := checkExpression_eq_ok.mp h
  simp only [isExpression, Bool.and_eq_true, Bool.not_eq_true'] at ht
  exact scan_strip ht.1.1.2 ht.1.2

theorem whole_literal {keyword : String} (h : keyword.toList.all isPlain = true) (s : String) :
    Whole (keyword ++ quoteLiteral s) [s] := (Whole.plain keyword h).append (.literal s)

theorem whole_expression {keyword : String} (hk : keyword.toList.all isPlain = true)
    (hne : keyword.toList.isEmpty = false) (h : checkExpression kind j = .ok s) : Whole (keyword ++ s) [] :=
  .plain_append hk hne (scan_expression h)

/-! ## Columns -/

variable {c : Column} {d : Dialect}

theorem allWhole_commentClauses (c : Column) : AllWhole c.commentClauses c.comment.rendered := by
  unfold Column.commentClauses Json.rendered
  split
  · exact .singleton (whole_literal rfl _)
  · exact .nil

theorem allWhole_valueClauses (c : Column) : AllWhole c.valueClauses c.defaultValue.toList := by
  unfold Column.valueClauses
  cases c.defaultValue with
  | none => exact .nil
  | some v => exact .singleton (whole_literal rfl v)

theorem Clickhouse.allWhole_defaultClause {clauses : List String} (h : Clickhouse.defaultClause c = .ok clauses) :
    AllWhole clauses (if c.defaultExpr.isTruthy then [] else c.defaultValue.toList) := by
  unfold Clickhouse.defaultClause at h
  split at h
  · rename_i he
    rw [if_pos he]
    simp only [Except.bind_eq_ok, Except.liftShape_eq_ok] at h
    obtain ⟨kind, -, h⟩ := h
    split at h
    · simp only [Except.bind_eq_ok, Except.throw_ne_ok, false_and, exists_false] at h
    · rename_i hk
      simp only [Except.bind_eq_ok, Except.liftSink_eq_ok, Except.pure_eq_ok] at h
      obtain ⟨expression, hx, rfl⟩ := h
      have hk : kind ∈ Clickhouse.defaultKinds := by simpa using hk
      have hp : ∀ k ∈ Clickhouse.defaultKinds, (k ++ " ").toList.all isPlain = true := by decide
      exact .singleton (whole_expression (hp kind hk) (by simp) hx)
  · rename_i he
    rw [if_neg he, ← Except.pure_eq_ok.mp h]
    exact allWhole_valueClauses c

/-- A text whose upper-case form begins with a letter does not begin with a sign. -/
theorem isSoft_of_upper {start : Char} (rest : List Char) (hs : isLetter start = true)
    (h : Text.startsWith (Text.upper s) (String.ofList (start :: rest)) = true) : isSoft s.toList = true := by
  cases hcs : s.toList with
  | nil => rfl
  | cons c cs =>
      rw [Text.startsWith, Text.upper, hcs, String.toList_ofList, String.toList_ofList, List.flatMap_cons] at h
      -- Letter case does not change a sign into a letter.
      have hne : c ∉ ['-', '*', '/'] := by
        intro hc
        have hsign : ∀ d ∈ ['-', '*', '/'], Text.upperChar d = [d] ∧ isLetter d = false :=
          List.forall_mem_cons.mpr ⟨by decide, List.forall_mem_cons.mpr ⟨by decide,
            List.forall_mem_singleton.mpr (by decide)⟩⟩
        rw [(hsign c hc).1, List.isPrefixOf_iff_prefix, List.singleton_append, List.cons_prefix_cons] at h
        rw [h.1, (hsign c hc).2] at hs
        exact nomatch hs
      simpa [isSoft] using hne

theorem Clickhouse.allWhole_codecClause {clauses : List String} (h : Clickhouse.codecClause j = .ok clauses) :
    AllWhole clauses [] := by
  unfold Clickhouse.codecClause at h
  split at h
  · simp only [Except.bind_eq_ok, Except.pure_eq_ok] at h
    obtain ⟨text, ht, rfl⟩ := h
    refine .singleton ?_
    split
    · rename_i hu
      exact ⟨scan_expression ht, isSoft_of_upper "ODEC(".toList rfl hu, List.nil_sublist _⟩
    · exact (whole_expression rfl rfl ht).append (.plain _ rfl)
  · rw [← Except.pure_eq_ok.mp h]
    exact .nil

theorem Clickhouse.allWhole_ttlClause {clauses : List String} (h : Clickhouse.ttlClause j = .ok clauses) :
    AllWhole clauses [] := by
  unfold Clickhouse.ttlClause at h
  split at h
  · obtain ⟨expression, hx, rfl⟩ := Except.map_eq_ok.mp h
    exact .singleton (whole_expression rfl rfl hx)
  · cases h
    exact .nil

theorem Dialect.Clauses.allWhole {clauses : List String} (h : d.Clauses c clauses) :
    AllWhole clauses (c.rendered d) := by
  cases h with
  | mysql =>
      have hr : AllWhole (if c.nullable then [] else ["NOT NULL"]) [] := by
        split
        · exact .nil
        · exact .singleton (.plain _ rfl)
      exact (hr.append (allWhole_valueClauses c)).append (allWhole_commentClauses c)
  | hive => exact allWhole_commentClauses c
  | clickhouse hd hc ht =>
      have ha := (((Clickhouse.allWhole_defaultClause hd).append (allWhole_commentClauses c)).append
        (Clickhouse.allWhole_codecClause hc)).append (Clickhouse.allWhole_ttlClause ht)
      rw [List.append_nil, List.append_nil] at ha
      exact ha

theorem whole_columnDefinition (h : d.columnDefinition c = .ok s) : Whole s (c.rendered d) := by
  obtain ⟨name, type, clauses, hn⟩ := columnDefinition_eq_ok h
  rw [hn.written]
  exact (AllWhole.cons (whole_quoted hn.isName) (.cons (whole_type hn.typed) hn.followed.allWhole)).join
    " " rfl

/-! ## Clauses of tables -/

variable {t : Table}

theorem whole_commentAfter (keyword : String) (h : keyword.toList.all isPlain = true) (t : Table) :
    Whole (t.commentAfter keyword) t.comment.rendered := by
  unfold Table.commentAfter Json.rendered
  split
  · exact whole_literal h _
  · exact .plain _ rfl

theorem Mysql.allWhole_keyItems {names : List Json} {key : List String} (h : Mysql.keyItems names = .ok key) :
    AllWhole key [] := by
  unfold Mysql.keyItems at h
  split at h
  · cases h
    exact .nil
  · obtain ⟨columns, hc, rfl⟩ := Except.map_eq_ok.mp h
    exact .singleton (((Whole.plain _ rfl).append (whole_quoteNames hc)).append (.plain _ rfl))

theorem Clickhouse.whole_onCluster {clause : String} (h : Clickhouse.onCluster j = .ok clause) :
    Whole clause [] := by
  unfold Clickhouse.onCluster at h
  split at h
  · obtain ⟨cluster, hc, rfl⟩ := Except.map_eq_ok.mp h
    exact (Whole.plain _ rfl).append (whole_quoteName hc)
  · cases h
    exact .plain _ rfl

theorem Clickhouse.whole_partitionClause {clause : String} (h : Clickhouse.partitionClause j = .ok clause) :
    Whole clause [] := by
  unfold Clickhouse.partitionClause at h
  split at h
  · obtain ⟨key, hk, rfl⟩ := Except.map_eq_ok.mp h
    exact whole_expression rfl rfl hk
  · cases h
    exact .plain _ rfl

theorem Clickhouse.whole_orderClause {names : List Json} {clause : String}
    (h : Clickhouse.orderClause names = .ok clause) : Whole clause [] := by
  unfold Clickhouse.orderClause at h
  split at h
  · cases h
    exact .plain _ rfl
  · obtain ⟨columns, hc, rfl⟩ := Except.map_eq_ok.mp h
    exact ((Whole.plain _ rfl).append (whole_quoteNames hc)).append (.plain _ rfl)

theorem Clickhouse.whole_keyClause {names : List Json} {clause : String}
    (h : Clickhouse.keyClause names = .ok clause) : Whole clause [] := by
  unfold Clickhouse.keyClause at h
  split at h
  · cases h
    exact .plain _ rfl
  · obtain ⟨columns, hc, rfl⟩ := Except.map_eq_ok.mp h
    exact ((Whole.plain _ rfl).append (whole_quoteNames hc)).append (.plain _ rfl)

theorem whole_writeInt {n : Int} (h : 0 < n) : Whole (Number.writeInt n) [] := by
  rw [Number.writeInt, if_neg (by omega)]
  refine .plain _ ?_
  rw [String.toList_ofList, List.all_eq_true]
  intro c hc
  have hd := Nat.isDigit_of_mem_toDigits (by decide) (by decide) hc
  have hw : isWordChar c = true := by
    have ha : Text.isAsciiDigit c = true := by
      simpa [Char.isDigit, Text.isAsciiDigit, UInt32.le_iff_toNat_le] using hd
    simp [isWordChar, ha]
  exact (isPlain_of_isWordChar hw).1

theorem Clickhouse.whole_retention {retained : List String × String} (h : Clickhouse.retention t = .ok retained) :
    AllWhole retained.1 [] ∧ Whole retained.2 [] := by
  obtain ⟨-, rfl⟩ | ⟨ttl, unit, -, hpos, hunit, hname, rfl⟩ := Clickhouse.retention_eq_ok h
  · exact ⟨.nil, .plain _ rfl⟩
  · have hp : ∀ u ∈ Clickhouse.ttlUnits, u.toList.all isPlain = true := by decide
    have hq := whole_quoted hname
    refine ⟨.singleton (hq.append (.plain _ rfl)), ?_⟩
    have hinterval := ((Whole.plain "\nTTL " rfl).append hq).words " + INTERVAL " rfl
    exact ((hinterval.append (whole_writeInt hpos)).words " " rfl).words unit (hp unit hunit)

theorem Hive.scan_delimiter (h : Hive.checkDelimiter j = .ok s) (rest : List Char) :
    scan breaks .literal (s.toList ++ '\x27' :: rest) = scan breaks .outside rest := by
  cases j with
  | string text =>
      obtain ⟨hd, rfl⟩ := Except.ite_eq_ok.mp h
      unfold Hive.isDelimiter at hd
      split at hd
      · rename_i sign a b c htext
        have hne : ∀ d, Hive.isOctalDigit d = true → d ≠ '\x27' ∧ d ≠ '\x5c' := by
          intro d hd
          constructor <;> rintro rfl <;> exact absurd hd (by decide)
        simp only [Bool.and_eq_true, decide_eq_true_eq] at hd
        obtain ⟨⟨⟨rfl, -⟩, hb⟩, hc⟩ := hd
        -- The backslash takes the first digit, and the other two are read as they are.
        have hescape : scan breaks .literal ('\x5c' :: a :: (b :: c :: '\x27' :: rest))
            = scan breaks .literal (b :: c :: '\x27' :: rest) := rfl
        rw [htext]
        refine hescape.trans ?_
        rw [scan_inLiteral (hne b hb).1 (hne b hb).2, scan_inLiteral (hne c hc).1 (hne c hc).2]
        rfl
      · rename_i c htext
        simp only [Bool.not_eq_true', Bool.or_eq_false_iff, decide_eq_false_iff_not] at hd
        rw [htext, List.singleton_append, scan_inLiteral hd.1.1 hd.1.2]
        rfl
      · exact nomatch hd
  | _ => exact nomatch h

theorem Hive.whole_delimiter (h : Hive.checkDelimiter j = .ok s) :
    Whole ("\nROW FORMAT DELIMITED FIELDS TERMINATED BY '" ++ s ++ "'") [] := by
  have hopen : "\nROW FORMAT DELIMITED FIELDS TERMINATED BY '".toList
      = "\nROW FORMAT DELIMITED FIELDS TERMINATED BY ".toList ++ ['\x27'] := by rfl
  refine ⟨?_, ?_, List.nil_sublist _⟩
  · have hclose : "'".toList = ['\x27'] := rfl
    rw [String.toList_append, String.toList_append, hopen, List.append_assoc, List.append_assoc,
      scan_plain rfl, hclose, List.singleton_append, scan, not_breaks_quote, if_neg (by simp), Lexing.next,
      if_neg (by decide), if_pos rfl, Hive.scan_delimiter h]
    rfl
  · rw [String.toList_append, String.toList_append, hopen]
    rfl

theorem Hive.checkStorage_mem (h : Hive.checkStorage j = .ok s) : s ∈ Hive.storageFormats := by
  unfold Hive.checkStorage at h
  simp only [Except.bind_eq_ok, Except.liftShape_eq_ok] at h
  obtain ⟨format, -, h⟩ := h
  split at h
  · rename_i hf
    rw [Except.pure_eq_ok] at h
    subst h
    simpa using hf
  · exact absurd h Except.throw_ne_ok

/-! ## Statements -/

theorem whole_createDatabase {database : Json} {sql : String} (h : d.createDatabase database = .ok sql) :
    Whole sql [] := by
  simp only [Dialect.createDatabase, Except.bind_eq_ok, Except.liftSink_eq_ok, Except.pure_eq_ok] at h
  obtain ⟨name, hn, rfl⟩ := h
  exact (Whole.plain _ rfl).append (whole_quoteName hn)

theorem Sql.Whole.of_sublist {values values' : List String} (h : Whole s values) (hv : values'.Sublist values) :
    Whole s values' := ⟨h.scans, h.soft, hv.trans h.reads⟩

theorem whole_describeTable {database table : Json} {sql : String}
    (h : d.describeTable database table = .ok sql) : Whole sql [] := by
  cases d with
  | mysql =>
      simp only [Dialect.describeTable, Mysql.describeTable, Except.bind_eq_ok, Except.liftSink_eq_ok,
        Except.pure_eq_ok] at h
      obtain ⟨-, -, rfl⟩ := h
      have hhead := Whole.plain ("SELECT COLUMN_NAME, COLUMN_TYPE, COLUMN_COMMENT, IS_NULLABLE, COLUMN_DEFAULT "
        ++ "FROM information_schema.COLUMNS " ++ "WHERE TABLE_SCHEMA = ") (by decide +kernel)
      have hschema := hhead.append (.literal database.text)
      have htable := (hschema.words " AND TABLE_NAME = " rfl).append (.literal table.text)
      exact (htable.words " ORDER BY ORDINAL_POSITION" rfl).of_sublist (List.nil_sublist _)
  | hive =>
      simp only [Dialect.describeTable, Hive.describeTable, Except.bind_eq_ok, Except.liftSink_eq_ok,
        Except.pure_eq_ok] at h
      obtain ⟨name, hn, rfl⟩ := h
      exact (Whole.plain _ rfl).append (whole_quoteTable hn)
  | clickhouse =>
      simp only [Dialect.describeTable, Clickhouse.describeTable, Except.bind_eq_ok, Except.liftSink_eq_ok,
        Except.pure_eq_ok] at h
      obtain ⟨name, hn, rfl⟩ := h
      exact (Whole.plain _ rfl).append (whole_quoteTable hn)

theorem allWhole_definitions {columns : List Column} {definitions : List String}
    (h : List.Forall₂ (fun c s => d.columnDefinition c = .ok s) columns definitions) :
    AllWhole definitions (columns.flatMap (·.rendered d)) :=
  .of_forall₂ h fun _ _ => whole_columnDefinition

theorem whole_createHead {table : String} (h : quoteTable t.database t.name = .ok table) :
    Whole ("CREATE TABLE IF NOT EXISTS " ++ table) [] := (Whole.plain _ rfl).append (whole_quoteTable h)

theorem Mysql.whole_createTable {sql : String} (h : Mysql.createTable t = .ok sql) :
    Whole sql (t.rendered .mysql) := by
  obtain ⟨columns, key, engine, charset, table, hc, hk, he, hs, ht, rfl⟩ := Mysql.createTable_eq_ok h
  have hitems := (allWhole_definitions (d := .mysql) hc).append (Mysql.allWhole_keyItems hk)
  rw [List.append_nil] at hitems
  have hopen := (whole_createHead ht).words " (\n    " rfl
  have hlist := (hopen.append (hitems.join ",\n    " rfl)).words "\n)" rfl
  have hengine := hlist.expression " ENGINE=" rfl rfl (scan_expression he)
  have hcharset := hengine.expression " DEFAULT CHARSET=" rfl rfl (scan_expression hs)
  exact hcharset.append (whole_commentAfter " COMMENT=" rfl t)

theorem Hive.whole_createTable {sql : String} (h : Hive.createTable t = .ok sql) :
    Whole sql (t.rendered .hive) := by
  obtain ⟨columns, table, partitions, delimiter, storage, hc, ht, hp, hd, hs, rfl⟩ := Hive.createTable_eq_ok h
  have hopen := (whole_createHead ht).words " (\n    " rfl
  have hlist := (hopen.append ((allWhole_definitions (d := .hive) hc).join ",\n    " rfl)).words "\n)"
    rfl
  have hpartitions : Whole (if partitions.isEmpty then "" else "\nPARTITIONED BY (" ++ Text.join ", " partitions
      ++ ")") ((t.columns.filter (·.partition)).flatMap (·.rendered .hive)) := by
    split
    · rename_i he
      rw [List.isEmpty_iff] at he
      subst he
      rw [List.forall₂_nil_right_iff.mp hp]
      exact .plain _ rfl
    · exact ((Whole.plain _ rfl).append ((allWhole_definitions (d := .hive) hp).join
        ", " rfl)).words ")" rfl
  have hparts := (hlist.append (whole_commentAfter "\nCOMMENT " rfl t)).append hpartitions
  have hformats : ∀ f ∈ Hive.storageFormats, f.toList.all isPlain = true := by decide
  have hend := ((hparts.part (Hive.whole_delimiter hd)).words "\nSTORED AS " rfl).words storage
    (hformats storage (Hive.checkStorage_mem hs))
  simp only [String.append_assoc] at hend ⊢
  exact hend

theorem Clickhouse.whole_createTable {sql : String} (h : Clickhouse.createTable t = .ok sql) :
    Whole sql (t.rendered .clickhouse) := by
  obtain ⟨columns, retained, table, cluster, engine, partition, order, key, hc, hr, ht, hl, he, hp, ho, hk, rfl⟩ :=
    Clickhouse.createTable_eq_ok h
  obtain ⟨hretained, hclause⟩ := Clickhouse.whole_retention hr
  have hitems := (allWhole_definitions (d := .clickhouse) hc).append hretained
  rw [List.append_nil] at hitems
  have hopen := ((whole_createHead ht).part (Clickhouse.whole_onCluster hl)).words " (\n    " rfl
  have hlist := (hopen.append (hitems.join ",\n    " rfl)).words "\n)" rfl
  have hengine := hlist.expression "\nENGINE = " rfl rfl (scan_expression he)
  have hclauses := (((hengine.part (Clickhouse.whole_partitionClause hp)).part
    (Clickhouse.whole_orderClause ho)).part (Clickhouse.whole_keyClause hk)).part hclause
  exact hclauses.append (whole_commentAfter "\nCOMMENT " rfl t)

theorem whole_createTable {sql : String} (h : d.createTable t = .ok sql) : Whole sql (t.rendered d) := by
  cases d with
  | mysql => exact Mysql.whole_createTable h
  | hive => exact Hive.whole_createTable h
  | clickhouse => exact Clickhouse.whole_createTable h

theorem whole_alters {columns : List Column} {statements : List String} {start : String} (hs : Whole start [])
    (h : List.Forall₂ (fun c sql => ∃ definition, d.columnDefinition c = .ok definition ∧
      start ++ " ADD COLUMN " ++ definition = sql) columns statements) :
    List.Forall₂ (fun batch sql => Whole sql (batch.flatMap (·.rendered d))) (columns.map ([·])) statements := by
  rw [List.forall₂_map_left_iff]
  refine h.imp ?_
  rintro c _ ⟨definition, hd, rfl⟩
  rw [List.flatMap_singleton]
  exact (hs.words " ADD COLUMN " rfl).append (whole_columnDefinition hd)

theorem whole_addColumns {columns : List Column} {statements : List String}
    (h : d.addColumns t columns = .ok statements) :
    List.Forall₂ (fun batch sql => Whole sql (batch.flatMap (·.rendered d))) (d.batches columns) statements := by
  cases d with
  | mysql =>
      obtain ⟨table, ht, hs⟩ := Mysql.addColumns_eq_ok h
      exact whole_alters (d := .mysql) ((Whole.plain "ALTER TABLE " rfl).append (whole_quoteTable ht)) hs
  | clickhouse =>
      obtain ⟨table, cluster, ht, hl, hs⟩ := Clickhouse.addColumns_eq_ok h
      exact whole_alters (d := .clickhouse) (((Whole.plain "ALTER TABLE " rfl).append
        (whole_quoteTable ht)).part (Clickhouse.whole_onCluster hl)) hs
  | hive =>
      obtain ⟨rfl, rfl⟩ | ⟨hne, definitions, table, hd, ht, rfl⟩ := Hive.addColumns_eq_ok h
      · exact .nil
      · have hb : Dialect.batches columns .hive = [columns] := by simp [Dialect.batches, hne]
        rw [hb]
        refine .cons ?_ .nil
        have hopen := ((Whole.plain "ALTER TABLE " rfl).append (whole_quoteTable ht)).words
          " ADD COLUMNS (" rfl
        exact (hopen.append ((allWhole_definitions (d := .hive) hd).join ", " rfl)).words ")" rfl

/-! ## Closed statements -/

/-- A statement is read to its end outside of names and literals without meeting anything there that ends it,
begins or ends a comment or escapes, and the texts that are rendered in it are whole literals of it. -/
def Sql.Closed (sql : String) (rendered : List String) : Prop :=
  scan breaks .outside sql.toList = some .outside ∧ rendered.Sublist (literals sql)

theorem Sql.Whole.closed {values : List String} (h : Whole s values) : Closed s values := ⟨h.scans, h.reads⟩

/-- Every statement of every dialect is closed, whatever the table that it is written for. -/
theorem statements_closed (d : Dialect) :
    (∀ database sql, d.createDatabase database = .ok sql → Closed sql []) ∧
      (∀ t sql, d.createTable t = .ok sql → Closed sql (t.rendered d)) ∧
      (∀ t columns statements, d.addColumns t columns = .ok statements →
        List.Forall₂ (fun batch sql => Closed sql (batch.flatMap (·.rendered d))) (d.batches columns) statements) ∧
      (∀ database table sql, d.describeTable database table = .ok sql → Closed sql []) := by
  refine ⟨fun _ _ h => (whole_createDatabase h).closed, fun _ _ h => (whole_createTable h).closed,
    fun _ _ _ h => ?_, fun _ _ _ h => (whole_describeTable h).closed⟩
  exact (whole_addColumns h).imp fun _ _ hw => hw.closed

/-- A table whose texts try to leave their literals. -/
def hostileTable : Table where
  database := .string "db"
  name := .string "t"
  columns := [{ Column.plain "a" "VARCHAR(5)" with
    defaultValue := some "'; DROP", comment := .string "it's -- \\" }]
  comment := .string "*/"
  primaryKey := []
  engine := .null
  charset := .null
  fieldDelimiter := .null
  storedAs := .null
  orderBy := []
  partitionBy := .null
  cluster := .null
  ttl := none
  ttlUnit := .null

theorem hostileTable_closed : ∃ sql, Dialect.createTable hostileTable .mysql = .ok sql ∧
    Closed sql ["'; DROP", "it's -- \\", "*/"] :=
  ⟨_, rfl, (statements_closed .mysql).2.1 hostileTable _ rfl⟩

end SinkKeeper
