import SinkKeeper.CommandLine.Ensure
import SinkKeeper.Proofs.Replies
import SinkKeeper.Web.App

/-!
# What comes of descriptions

The description of a table is read, or the sender is told what is wrong with it; an infinite lifetime alone is told to
nobody. A table that was read is written by a builder or refused, unless an option that the builder reads as a text is
something else: then the builder complains of a value that it cannot work with.
-/

namespace SinkKeeper

open SinkKeeper.Sql

/-! ## Reading -/

/-- The description tells a lifetime that is infinite. -/
def Json.Endless (fields : Json.Fields) : Prop :=
  ∃ negative, fields.lookup "ttl" = some (.number (.real (.infinite negative)))

/-- The sender of a description can be told of the error. -/
def ShapeError.Senders (e : ShapeError) : Prop := e.family = .key ∨ e.family = .type ∨ e.family = .value

section Reading

variable {e : ShapeError} {fields : Json.Fields}

theorem ShapeError.Senders.told (h : e.Senders) :
    Web.isSendersError e = true ∧ CommandLine.isUnreadable (.shape e) = true := by
  obtain h | h | h := h <;> simp [Web.isSendersError, CommandLine.isUnreadable, h]

theorem Json.field_fails (key : String) (j : Json) : Fails ShapeError.Senders (j.field key) := by
  cases j with
  | object fields =>
      rw [Json.field]
      split
      · exact .ok
      · exact .error (.inl rfl)
  | _ => exact .error (.inr (.inl rfl))

theorem Json.items_fails (j : Json) : Fails ShapeError.Senders j.items := by
  cases j with
  | array items | string s | object fields => exact .ok
  | _ => exact .error (.inr (.inl rfl))

theorem Json.itemsOrNone_fails (j : Json) : Fails ShapeError.Senders j.itemsOrNone := by
  unfold Json.itemsOrNone
  split
  · exact j.items_fails
  · exact .ok

theorem Column.ofJson_fails (j : Json) : Fails ShapeError.Senders (Column.ofJson j) := by
  refine (j.field_fails "name").bind fun name hname => (j.field_fails "type").bind fun type _ => ?_
  -- What has a name is an object, so it has the other fields too.
  cases j with
  | object fields => exact .ok
  | _ => cases hname

theorem Table.columnsOf_fails (fields : Json.Fields) : Fails ShapeError.Senders (Table.columnsOf fields) := by
  have hcolumns : ∀ items : List Json, Fails ShapeError.Senders (items.mapM Column.ofJson) :=
    fun items => .mapM fun item _ => Column.ofJson_fails item
  unfold Table.columnsOf
  split
  · exact (Json.items_fails _).bind fun items _ => hcolumns items
  · exact hcolumns []

theorem Table.ttlOf_fails (fields : Json.Fields) :
    Fails (fun e => e.Senders ∨ e = .infiniteNumber ∧ Json.Endless fields) (Table.ttlOf fields) := by
  unfold Table.ttlOf
  split
  · exact .ok
  · refine ((Json.toWhole_fails _).imp fun e he => ?_).map
    obtain (htype | hvalue) | ⟨rfl, negative, hendless⟩ := he
    · exact .inl (.inr (.inl htype))
    · exact .inl (.inr (.inr hvalue))
    · refine .inr ⟨rfl, negative, ?_⟩
      rw [Json.fieldOrNull] at hendless
      cases hlookup : fields.lookup "ttl" with
      | none =>
          rw [hlookup] at hendless
          cases hendless
      | some ttl =>
          rw [hlookup] at hendless
          exact congrArg some hendless

/-- A description is read, or its sender is told, or it tells an infinite lifetime. -/
theorem Table.ofJson_fails (fields : Json.Fields) :
    Fails (fun e => e.Senders ∨ e = .infiniteNumber ∧ Json.Endless fields) (Table.ofJson (.object fields)) := by
  have hname : Fails ShapeError.Senders (Table.nameOf (.object fields) fields) := by
    unfold Table.nameOf
    dsimp only
    split
    · exact .ok
    · exact Json.field_fails _ _
  have hsender : ∀ {α : Type} {x : Except ShapeError α}, Fails ShapeError.Senders x →
      Fails (fun e => e.Senders ∨ e = .infiniteNumber ∧ Json.Endless fields) x := fun h => h.imp fun _ => .inl
  refine Fails.ok.bind fun _ hfields => ?_
  cases hfields
  refine (hsender (Json.field_fails _ _)).bind fun _ _ => (hsender hname).bind fun _ _ => ?_
  refine (hsender (Table.columnsOf_fails _)).bind fun _ _ => (hsender (Json.itemsOrNone_fails _)).bind fun _ _ => ?_
  exact (hsender (Json.itemsOrNone_fails _)).bind fun _ _ => (Table.ttlOf_fails fields).bind fun _ _ => .ok

end Reading

/-! ## Options that do not fit -/

/-- Something is there, and it is no text. -/
def Json.NoWord (j : Json) : Prop := j.isTruthy = true ∧ ∀ s, j ≠ .string s

/-- An option of a table that is read as a text and is something else, with the complaint about it. -/
inductive Table.Misfit (t : Table) : Dialect → ShapeError → Prop
  | delimiter (h : t.fieldDelimiter.NoWord) : Misfit t .hive (.notText t.fieldDelimiter.kind)
  | storage (h : t.storedAs.NoWord) : Misfit t .hive (.noOperation t.storedAs.kind "upper")
  | unit (hkept : t.ttl.isSome) (h : ∀ s, t.ttlUnit ≠ .string s) :
      Misfit t .clickhouse (.noOperation t.ttlUnit.kind "upper")
  | defaultKind {c : Column} (hc : c ∈ t.columns) (hused : c.defaultExpr.isTruthy = true) (h : c.defaultKind.NoWord) :
      Misfit t .clickhouse (.noOperation c.defaultKind.kind "upper")

/-- If a failure is a complaint about a shape, `P` tells of it. -/
def Failure.OnShape (P : ShapeError → Prop) (e : Failure) : Prop := ∀ x, e = .shape x → P x

section Building

variable {P : ShapeError → Prop} {α : Type} {c : Column} {t : Table} {j : Json} {d : Dialect}

theorem Fails.sinkOnShape {x : Except SinkError α} : Fails (Failure.OnShape P) (liftM x : Except Failure α) := by
  cases x with
  | ok a => exact .ok
  | error e => exact .error fun _ h => nomatch h

theorem Fails.shapeOnShape {x : Except ShapeError α} (h : Fails P x) :
    Fails (Failure.OnShape P) (liftM x : Except Failure α) := by
  cases x with
  | ok a => exact .ok
  | error e =>
      refine .error fun x hx => ?_
      cases hx
      exact h e rfl

theorem Fails.rejectedOnShape {e : SinkError} : Fails (Failure.OnShape P) (.error (.sink e) : Except Failure α) :=
  .error fun _ h => nomatch h

theorem upper_failsOn (h : (∀ s, j ≠ .string s) → P (.noOperation j.kind "upper")) : Fails P j.upper := by
  cases j with
  | string s => exact .ok
  | _ => exact .error (h fun _ hs => nomatch hs)

theorem Json.NoWord.of_orElse {s : String} (h : ∀ s', j.orElse (.string s) ≠ .string s') :
    j.NoWord ∧ j.orElse (.string s) = j := by
  unfold Json.orElse at h ⊢
  split at h
  · rename_i htruthy
    exact ⟨⟨htruthy, h⟩, if_pos htruthy⟩
  · exact absurd rfl (h s)

theorem orElse_upper_failsOn {s : String} (h : j.NoWord → P (.noOperation j.kind "upper")) :
    Fails P (j.orElse (.string s)).upper := by
  refine upper_failsOn fun hno => ?_
  obtain ⟨hnoWord, hsame⟩ := Json.NoWord.of_orElse hno
  rw [hsame]
  exact h hnoWord

theorem Clickhouse.defaultClause_onShape
    (h : c.defaultExpr.isTruthy = true → c.defaultKind.NoWord → P (.noOperation c.defaultKind.kind "upper")) :
    Fails (Failure.OnShape P) (Clickhouse.defaultClause c) := by
  unfold Clickhouse.defaultClause
  split
  · rename_i hused
    refine (Fails.shapeOnShape (orElse_upper_failsOn (h hused))).bind fun kind _ => ?_
    split
    · exact .rejectedOnShape
    · exact Fails.sinkOnShape.bind fun _ _ => .ok
  · exact .ok

theorem columnDefinition_onShape (h : d = .clickhouse → c.defaultExpr.isTruthy = true → c.defaultKind.NoWord →
    P (.noOperation c.defaultKind.kind "upper")) : Fails (Failure.OnShape P) (d.columnDefinition c) := by
  cases d with
  | mysql | hive => exact Fails.sinkOnShape.bind fun _ _ => Fails.sinkOnShape.bind fun _ _ => .ok
  | clickhouse =>
      refine Fails.sinkOnShape.bind fun _ _ => Fails.sinkOnShape.bind fun _ _ => ?_
      refine (Clickhouse.defaultClause_onShape (h rfl)).bind fun _ _ => ?_
      exact Fails.sinkOnShape.bind fun _ _ => Fails.sinkOnShape.bind fun _ _ => .ok

theorem definition_misfit (hc : c ∈ t.columns) : Fails (Failure.OnShape (t.Misfit d)) (d.columnDefinition c) := by
  refine columnDefinition_onShape fun hd hused hno => ?_
  subst hd
  exact .defaultKind hc hused hno

theorem Clickhouse.retention_misfit (t : Table) :
    Fails (Failure.OnShape (t.Misfit .clickhouse)) (Clickhouse.retention t) := by
  unfold Clickhouse.retention
  split
  · exact .ok
  · rename_i ttl hkept
    have hunit : (∀ s, t.ttlUnit ≠ .string s) → t.Misfit .clickhouse (.noOperation t.ttlUnit.kind "upper") :=
      .unit (by rw [hkept]; rfl)
    refine (Fails.shapeOnShape (upper_failsOn hunit)).bind fun _ _ => ?_
    split
    · exact .rejectedOnShape
    · exact Fails.sinkOnShape.bind fun _ _ => .ok

theorem Hive.checkDelimiter_misfit (t : Table) :
    Fails (Failure.OnShape (t.Misfit .hive))
      (Hive.checkDelimiter (t.fieldDelimiter.orElse (.string Hive.defaultDelimiter))) := by
  by_cases hword : ∃ s, t.fieldDelimiter.orElse (.string Hive.defaultDelimiter) = .string s
  · obtain ⟨s, hs⟩ := hword
    rw [hs, Hive.checkDelimiter]
    split
    · exact .ok
    · exact .rejectedOnShape
  · obtain ⟨hno, hsame⟩ := Json.NoWord.of_orElse fun s hs => hword ⟨s, hs⟩
    have hcomplaint : ∀ j : Json, (∀ s, j ≠ .string s) → Hive.checkDelimiter j = .error (.shape (.notText j.kind)) := by
      intro j hj
      cases j with
      | string s => exact absurd rfl (hj s)
      | _ => rfl
    rw [hsame, hcomplaint _ hno.2]
    refine .error fun x hx => ?_
    cases hx
    exact .delimiter hno

theorem Hive.checkStorage_misfit (t : Table) :
    Fails (Failure.OnShape (t.Misfit .hive)) (Hive.checkStorage t.storedAs) := by
  refine (Fails.shapeOnShape (orElse_upper_failsOn .storage)).bind fun _ _ => ?_
  split
  · exact .ok
  · exact .rejectedOnShape

theorem createTable_misfit (d : Dialect) (t : Table) : Fails (Failure.OnShape (t.Misfit d)) (d.createTable t) := by
  cases d with
  | mysql =>
      refine (Fails.mapM fun c hc => definition_misfit (d := .mysql) hc).bind fun _ _ => ?_
      refine Fails.sinkOnShape.bind fun _ _ => Fails.sinkOnShape.bind fun _ _ => ?_
      exact Fails.sinkOnShape.bind fun _ _ => Fails.sinkOnShape.bind fun _ _ => .ok
  | hive =>
      have hfilter : ∀ q : Column → Bool,
          Fails (Failure.OnShape (t.Misfit .hive)) ((t.columns.filter q).mapM Hive.columnDefinition) :=
        fun q => .mapM fun c hc => definition_misfit (d := .hive) (List.mem_of_mem_filter hc)
      refine (hfilter _).bind fun _ _ => Fails.sinkOnShape.bind fun _ _ => (hfilter _).bind fun _ _ => ?_
      exact (Hive.checkDelimiter_misfit t).bind fun _ _ => (Hive.checkStorage_misfit t).bind fun _ _ => .ok
  | clickhouse =>
      refine (Fails.mapM fun c hc => definition_misfit (d := .clickhouse) hc).bind fun _ _ => ?_
      refine (Clickhouse.retention_misfit t).bind fun _ _ => ?_
      refine Fails.sinkOnShape.bind fun _ _ => Fails.sinkOnShape.bind fun _ _ => ?_
      refine Fails.sinkOnShape.bind fun _ _ => Fails.sinkOnShape.bind fun _ _ => ?_
      exact Fails.sinkOnShape.bind fun _ _ => Fails.sinkOnShape.bind fun _ _ => .ok

theorem addColumns_misfit (d : Dialect) (t : Table) :
    Fails (Failure.OnShape (t.Misfit d)) (d.addColumns t t.columns) := by
  cases d with
  | mysql =>
      refine Fails.sinkOnShape.bind fun _ _ => .mapM fun c hc => ?_
      exact (definition_misfit (d := .mysql) hc).bind fun _ _ => .ok
  | hive =>
      rw [Dialect.addColumns, Hive.addColumns]
      split
      · exact .ok
      · refine (Fails.mapM fun c hc => definition_misfit (d := .hive) hc).bind fun _ _ => ?_
        exact Fails.sinkOnShape.bind fun _ _ => .ok
  | clickhouse =>
      refine Fails.sinkOnShape.bind fun _ _ => Fails.sinkOnShape.bind fun _ _ => .mapM fun c hc => ?_
      exact (definition_misfit (d := .clickhouse) hc).bind fun _ _ => .ok

/-- Why nothing was built of a table: it was refused, or an option does not fit. -/
inductive Table.Unbuilt (t : Table) (d : Dialect) : Failure → Prop
  | refused {e : SinkError} (h : e.Invalid) : Unbuilt t d (.sink e)
  | misfit {e : ShapeError} (h : t.Misfit d e) : Unbuilt t d (.shape e)

theorem Table.Unbuilt.of_fails {x : Except Failure α} (h : Fails (Refusal True True) x)
    (hshape : Fails (Failure.OnShape (t.Misfit d)) x) : Fails (t.Unbuilt d) x := by
  intro e he
  cases h e he with
  | invalid hinvalid _ => exact .refused hinvalid
  | shape _ => exact .misfit (hshape _ he _ rfl)

theorem createTable_unbuilt (d : Dialect) (t : Table) : Fails (t.Unbuilt d) (d.createTable t) :=
  .of_fails (createTable_fails (.inl trivial)) (createTable_misfit d t)

theorem addColumns_unbuilt (d : Dialect) (t : Table) : Fails (t.Unbuilt d) (d.addColumns t t.columns) :=
  .of_fails (addColumns_fails (.inl trivial)) (addColumns_misfit d t)

end Building

end SinkKeeper
