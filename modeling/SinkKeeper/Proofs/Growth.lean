import SinkKeeper.Proofs.Crowd

/-!
# Reconciling among others

What adding columns and ensuring a table come to on a server that is shared with other clients.
-/

namespace SinkKeeper

variable {σ : Type} {d : Dialect} {t : Table} {column : Column} {rows : List Row} {name : String}

open SinkKeeper.Sql

/-! ## Rows of Hive -/

theorem Hive.columnOfRow_name {row : Row} {n : Nat} {c : Column} (h : row.Names n name)
    (hc : Hive.columnOfRow row = .ok c) : c.name = .string (Text.strip name) := by
  obtain ⟨cell, hcell, hrest⟩ := Except.bind_eq_ok.mp hc
  cases h.cell_zero.symm.trans hcell
  obtain ⟨type, -, hrest⟩ := Except.bind_eq_ok.mp hrest
  obtain ⟨comment, -, hrest⟩ := Except.bind_eq_ok.mp hrest
  cases hrest
  rfl

/-- The columns that are read off honest rows are there. -/
theorem Hive.Tells.columnsOfRows {present : String → Prop} (h : Hive.Tells present rows) {columns : List Column}
    (hc : Dialect.hive.columnsOfRows rows = .ok columns) : ∀ c ∈ columns, present (Text.lower c.name.text) := by
  obtain ⟨body, tail, rfl, hbody, htail⟩ := h
  induction body generalizing columns with
  | nil =>
      cases (Hive.columnsOfRows_end htail).symm.trans hc
      exact List.forall_mem_nil _
  | cons row body ih =>
      obtain ⟨⟨shown, hshown, hpresent⟩, hrest⟩ := List.forall_mem_cons.mp hbody
      obtain ⟨ended, -, hc⟩ := Except.bind_eq_ok.mp hc
      cases ended with
      | true =>
          cases hc
          exact List.forall_mem_nil _
      | false =>
          obtain ⟨found, hfound, hc⟩ := Except.bind_eq_ok.mp hc
          obtain ⟨others, hothers, hc⟩ := Except.bind_eq_ok.mp hc
          obtain ⟨c, hcolumn, rfl⟩ := Except.map_eq_ok.mp hfound
          cases hc
          refine List.forall_mem_cons.mpr ⟨?_, ih hothers hrest⟩
          rw [Hive.columnOfRow_name hshown hcolumn]
          exact hpresent

/-! ## What was asked and sent -/

/-- The call that finds out whether a column is there. -/
inductive Dialect.Checks (d : Dialect) (t : Table) (column : Column) : Call → Prop
  | asked {query} (h : d.columnExists t.database t.name column.name = some query) :
      Checks d t column (.query query.sql query.params)
  | described {sql} (hn : d.columnExists t.database t.name column.name = none)
      (h : d.describeTable t.database t.name = .ok sql) : Checks d t column (.query sql [])

namespace Task

variable [Server σ] {view : σ → Sight} {met : σ → Call → Sight} {s : σ} {link : Link σ} {new more : List Event}

/-- After a check of the column a statement was done that adds it, perhaps with others. -/
inductive Adds (d : Dialect) (t : Table) (column : Column) : List Event → Prop
  | done {before after : List Event} {batch : List Column} {sql : String} (sub : batch.Sublist t.columns)
      (built : d.addColumns t batch = .ok [sql]) (mem : column ∈ batch)
      (checked : ∃ e ∈ before, d.Checks t column e.call) :
      Adds d t column (before ++ executed sql :: after)

theorem Adds.before (h : Adds d t column more) : Adds d t column (new ++ more) := by
  cases h with
  | done sub built mem checked =>
      rw [← List.append_assoc]
      exact .done sub built mem (checked.imp fun e he => ⟨List.mem_append_right _ he.1, he.2⟩)

theorem Adds.after (h : Adds d t column new) : Adds d t column (new ++ more) := by
  cases h with
  | done sub built mem checked =>
      rw [List.append_assoc]
      exact .done sub built mem checked

/-- A column that was there at none of the calls up to the statement that adds it. -/
inductive Gains (d : Dialect) (t : Table) (met : σ → Call → Sight) (column : Column) (s : σ) : List Event → Prop
  | done {before after : List Event} {batch : List Column} {sql : String} (sub : batch.Sublist t.columns)
      (built : d.addColumns t batch = .ok [sql]) (mem : column ∈ batch)
      (checked : ∃ e ∈ before, d.Checks t column e.call)
      (absent : ¬Server.Meets met (·.HasColumn d column) s (before ++ [executed sql])) :
      Gains d t met column s (before ++ executed sql :: after)

theorem mem_of_sent {sql : String} {outcome : Outcome} (h : (sql, outcome) ∈ sent new) :
    ⟨.exec sql, outcome⟩ ∈ new := by
  obtain ⟨e, he, hs⟩ := List.mem_filterMap.mp h
  obtain ⟨call, ended⟩ := e
  cases call with
  | exec sql' =>
      cases hs
      exact he
  | _ => cases hs

theorem split_of_sent {sql : String} {outcome : Outcome} (h : sent new = [(sql, outcome)]) :
    ∃ before after, new = before ++ ⟨.exec sql, outcome⟩ :: after ∧ sent before = [] ∧ sent after = [] := by
  obtain ⟨before, ⟨call, ended⟩, after, rfl, hnone, hfirst, hafter⟩ := List.filterMap_eq_cons_iff.mp h
  have hbefore : sent before = [] := List.filterMap_eq_nil_iff.mpr hnone
  cases call with
  | exec sql' =>
      cases hfirst
      exact ⟨before, after, rfl, hbefore, hafter⟩
  | _ => cases hfirst

/-! ## Questions -/

section Questions

variable (hs : Shared d t view met)
include hs

theorem columns_tells {R : List Event → Prop} (hr : ∀ new, R new) (link : Link σ) :
    Runs d True (columns d t.database t.name) link R fun found new =>
      ∃ sql, d.describeTable t.database t.name = .ok sql ∧ new = [⟨.query sql [], .done⟩] ∧
        (d = .hive → ∀ c ∈ found, (met link.server (.query sql [])).columns (Text.lower c.name.text)) := by
  refine .check ((describeTable_fails _ _).rejecting (hr [])) ?_
  intro sql hsql
  refine (fetch_runs _ _ link).bind ?_
  rintro rows new link' hx ⟨rfl, ha⟩
  rw [← bind_pure (liftM (d.columnsOfRows rows))]
  refine .checkShape (fun _ _ => trivial) ?_
  intro found hfound
  refine .pure ⟨sql, hsql, rfl, ?_⟩
  rintro rfl
  exact (hs.describe _ sql rows rfl hsql ha).columnsOfRows hfound

/-- A column is checked, and met if it is found. -/
theorem columnExists_tells {R : List Event → Prop} (hr : ∀ new, R new) (hc : column ∈ t.columns) (link : Link σ) :
    Runs d True (columnExists d t.database t.name column.name) link R fun found new =>
      sent new = [] ∧ (∃ e ∈ new, d.Checks t column e.call) ∧
        (found = true → Server.Meets met (·.HasColumn d column) link.server new) := by
  refine .checkSink (checkName_fails _ _) (hr []) ?_
  intro name hname
  obtain ⟨hname, -⟩ := checkName_eq_ok.mp hname
  split
  · rename_i query hquery
    refine (fetch_runs _ _ link).bind ?_
    rintro rows new link' - ⟨rfl, ha⟩
    rw [pure_bind]
    refine .afterNote fun _ _ => .pure ⟨rfl, ⟨_, List.mem_singleton_self _, .asked hquery⟩, fun hfound => .inl ?_⟩
    exact (hs.column _ query rows column hc hquery ha).mp (by simpa using hfound)
  · rename_i hnone
    -- Only Hive has no query for a column: there the describe rows are looked through.
    have hhive : d = .hive := by
      cases d with
      | hive => rfl
      | mysql => cases hnone
      | clickhouse => cases hnone
    refine (columns_tells hs hr link).bind ?_
    rintro there new link' - ⟨sql, hsql, rfl, hthere⟩
    rw [pure_bind]
    refine .afterNote fun _ _ => .pure ⟨rfl, ⟨_, List.mem_singleton_self _, .described hnone hsql⟩, fun hfound => ?_⟩
    refine .inl ?_
    obtain ⟨c, hmem, hsame⟩ := List.any_eq_true.mp hfound
    have hcolumn := hthere hhive c hmem
    rw [beq_iff_eq.mp hsame] at hcolumn
    subst hhive
    rw [Sight.HasColumn, hname]
    exact hcolumn

/-- Each column is missing or was met. -/
theorem missingOf_tells {R : List Event → Prop} (hr : ∀ new, R new) {columns : List Column}
    (hsub : columns ⊆ t.columns) (link : Link σ) :
    Runs d True (missingOf d t columns) link R fun missing new =>
      sent new = [] ∧ missing.Sublist columns ∧ (∀ column ∈ missing, ∃ e ∈ new, d.Checks t column e.call) ∧
        ∀ column ∈ columns, column ∈ missing ∨ Server.Meets met (·.HasColumn d column) link.server new := by
  induction columns generalizing link R with
  | nil => exact .pure ⟨rfl, .slnil, List.forall_mem_nil _, List.forall_mem_nil _⟩
  | cons column columns ih =>
      obtain ⟨hmem, hrest⟩ := List.cons_subset.mp hsub
      refine (columnExists_tells hs hr hmem link).bind ?_
      rintro found new link' hx ⟨hsent, ⟨e, he, hcheck⟩, hmet⟩
      refine (ih (fun _ => hr _) hrest link').bind ?_
      rintro missing more link'' - ⟨hmore, hlist, hchecks, hcases⟩
      have hchecked : ∀ column ∈ missing, ∃ e ∈ new ++ more, d.Checks t column e.call := by
        intro column hm
        obtain ⟨e, he, hcheck⟩ := hchecks column hm
        exact ⟨e, List.mem_append_right _ he, hcheck⟩
      refine .pure ?_
      rw [List.append_nil, sent_append, hsent, hmore]
      -- What was met at the first question still counts after the others.
      cases found with
      | true =>
          refine ⟨rfl, hlist.cons _, hchecked, List.forall_mem_cons.mpr ⟨.inr ?_, fun c hc => ?_⟩⟩
          · exact Server.meets_append.mpr (.inl (hmet rfl))
          · exact (hcases c hc).imp_right (Server.meets_later hx)
      | false =>
          refine ⟨rfl, hlist.cons_cons _, ?_, List.forall_mem_cons.mpr ⟨.inl List.mem_cons_self, fun c hc => ?_⟩⟩
          · exact List.forall_mem_cons.mpr ⟨⟨e, List.mem_append_left _ he, hcheck⟩, hchecked⟩
          · exact (hcases c hc).imp (List.mem_cons_of_mem _) (Server.meets_later hx)

end Questions

/-! ## Adding columns -/

theorem exists_mem_of_forall₂ {α β : Type} {r : α → β → Prop} {xs : List α} {ys : List β} (h : List.Forall₂ r xs ys) :
    ∀ x ∈ xs, ∃ y ∈ ys, r x y := by
  induction h with
  | nil => exact List.forall_mem_nil _
  | cons hr _ ih =>
      refine List.forall_mem_cons.mpr ⟨⟨_, List.mem_cons_self, hr⟩, fun x hx => ?_⟩
      exact (ih x hx).imp fun y hy => ⟨List.mem_cons_of_mem _ hy.1, hy.2⟩

theorem adds_of_sent {missing : List Column} {statements : List String} (hsub : missing.Sublist t.columns)
    (hb : d.addColumns t missing = .ok statements) (hsends : Sends statements more)
    (hchecks : ∀ column ∈ missing, ∃ e ∈ new, d.Checks t column e.call) (hm : column ∈ missing) :
    Adds d t column (new ++ more) := by
  obtain ⟨batches, hbatches, rfl⟩ := Dialect.addColumns_batches hb
  obtain ⟨batch, hbatch, hcolumn⟩ := List.mem_flatten.mp hm
  obtain ⟨sql, hsql, hbuilt⟩ := exists_mem_of_forall₂ hbatches batch hbatch
  have hsent : (sql, .done) ∈ sent more := by
    rw [hsends]
    exact List.mem_map_of_mem hsql
  obtain ⟨before, after, rfl⟩ := List.append_of_mem (mem_of_sent hsent)
  have hlist : batch.Sublist t.columns := (List.sublist_flatten_of_mem hbatch).trans hsub
  have hchecked : ∃ e ∈ new ++ before, d.Checks t column e.call :=
    (hchecks column hm).imp fun e he => ⟨List.mem_append_left _ he.1, he.2⟩
  rw [← List.append_assoc]
  exact .done hlist hbuilt hcolumn hchecked

theorem addColumns_tells (hs : Shared d t view met) {R : List Event → Prop} (hr : ∀ new, R new) (link : Link σ) :
    Runs d True (addColumns d t) link R fun report new =>
      (∀ column ∈ report.columns, Adds d t column new) ∧
        ∀ column ∈ t.columns, column ∈ report.columns ∨ Server.Meets met (·.HasColumn d column) link.server new := by
  refine (missingOf_tells hs hr (List.Subset.refl _) link).bind ?_
  rintro missing new link₁ hx ⟨hsent, hsub, hchecks, hcases⟩
  split
  · rename_i hnone
    refine .afterNote fun _ _ => .pure ?_
    rw [List.append_nil]
    rw [List.isEmpty_iff.mp hnone] at hcases
    refine ⟨List.forall_mem_nil _, fun column hc => (hcases column hc).imp_left fun h => ?_⟩
    cases h
  · refine .check ((addColumns_fails (.inl trivial)).rejecting (hr _)) ?_
    intro statements hstatements
    refine (executeBatch_runs statements _ link₁).bind ?_
    intro _ more link₂ _ hsends
    refine .afterNote fun _ _ => .pure ?_
    rw [List.append_nil]
    refine ⟨fun column hm => adds_of_sent hsub hstatements hsends hchecks hm, fun column hc => ?_⟩
    exact (hcases column hc).imp_right fun h => Server.meets_append.mpr (.inl h)

section Outcomes

variable (hs : Shared d t view met)
include hs

theorem gains_of_adds (ha : Server.Answered s new) (hc : Clean new) (h : Adds d t column new) :
    Gains d t met column s new ∧ (view (Server.after s (new.map Event.call))).HasColumn d column := by
  cases h with
  | @done before after batch sql sub built mem checked =>
      obtain ⟨hbefore, hrest⟩ := List.forall_mem_append.mp hc
      obtain ⟨-, hafter⟩ := List.forall_mem_cons.mp hrest
      obtain ⟨habefore, hdone, haafter⟩ := Server.Answered.of_append ha
      obtain ⟨habsent, hthere⟩ := hs.adds _ batch sql sub built hdone.symm column mem
      refine ⟨.done sub built mem checked fun hmet => habsent ?_, ?_⟩
      · exact hs.next_meets (fun _ _ hw => hw.columns _) habefore hbefore hmet
      · rw [List.map_append, Server.after_append]
        exact (hs.within_after haafter hafter).columns _ hthere

/-- A statement for a column that was met up to it is not done. -/
theorem not_done_of_meets {before after : List Event} {batch : List Column} {sql : String} {outcome : Outcome}
    (ha : Server.Answered s (before ++ ⟨.exec sql, outcome⟩ :: after))
    (hsub : batch.Sublist t.columns) (hb : d.addColumns t batch = .ok [sql])
    (hmet : ∃ column ∈ batch, Server.Meets met (·.HasColumn d column) s (before ++ [⟨.exec sql, outcome⟩]))
    (hc : Clean before) : outcome ≠ .done := by
  rintro rfl
  obtain ⟨column, hmem, hmeets⟩ := hmet
  obtain ⟨hanswered, hdone, -⟩ := Server.Answered.of_append ha
  refine (hs.adds _ batch sql hsub hb hdone.symm column hmem).1 ?_
  exact hs.next_meets (fun _ _ hw => hw.columns _) hanswered hc hmeets

end Outcomes

/-- Work that halts was done up to a call of it, and if that call failed only rollbacks follow. -/
theorem Halts.split {before after : List Event} {c : Call} {outcome : Outcome} {e : Failure}
    (h : Halts d s (before ++ ⟨c, outcome⟩ :: after) e) (hc : c ≠ .rollback) :
    Clean before ∧ (outcome = .done ∨ outcome ≠ .done ∧ (∀ event ∈ after, event.call = .rollback) ∧
      ∃ f, Server.Faults s before c f ∧ Told d s c f e) := by
  generalize hnew : before ++ ⟨c, outcome⟩ :: after = new at h
  cases h with
  | @failed clear rest failing ended f _ clean failed fault back told =>
      obtain ⟨middle, hclear, hrest⟩ | ⟨middle, hbefore, hrest⟩ := List.append_eq_append_iff.mp hnew
      · cases middle with
        | nil =>
            cases hrest
            rw [List.append_nil] at hclear
            cases hclear
            exact ⟨clean, .inr ⟨failed, back, f, fault, told⟩⟩
        | cons first middle =>
            cases hrest
            subst hclear
            obtain ⟨hc, hfirst⟩ := List.forall_mem_append.mp clean
            exact ⟨hc, .inl (hfirst _ List.mem_cons_self).1⟩
      · cases middle with
        | nil =>
            cases hrest
            rw [List.append_nil] at hbefore
            cases hbefore
            exact ⟨clean, .inr ⟨failed, back, f, fault, told⟩⟩
        | cons first middle =>
            cases hrest
            exact absurd (back _ (List.mem_append_right _ List.mem_cons_self)) hc

theorem sent_of_rollbacks (h : ∀ event ∈ new, event.call = .rollback) : sent new = [] := by
  refine List.filterMap_eq_nil_iff.mpr fun e he => ?_
  simp [h e he]

theorem not_clean {before after : List Event} {c : Call} {outcome : Outcome} (h : Clean before → outcome ≠ .done) :
    ¬Clean (before ++ ⟨c, outcome⟩ :: after) := by
  intro hclean
  obtain ⟨hbefore, hrest⟩ := List.forall_mem_append.mp hclean
  exact h hbefore (List.forall_mem_cons.mp hrest).1.1

/-- A statement that fails where work halts is told, and is the last one sent. -/
theorem Halts.statement {before after : List Event} {sql : String} {outcome : Outcome} {e : Failure}
    (h : Halts d s (before ++ ⟨.exec sql, outcome⟩ :: after) e) (hd : Server.FailsAsDriver s)
    (hf : Clean before → outcome ≠ .done) :
    outcome ≠ .done ∧ sent after = [] ∧ ∃ f index, Server.Faults s before (.exec sql) f ∧
      e = .sink (.statement sql f.driverMessage index) := by
  obtain ⟨hbefore, hdone | ⟨hfailed, hback, f, hfault, htold⟩⟩ := h.split (by rintro ⟨⟩)
  · exact absurd hdone (hf hbefore)
  · refine ⟨hfailed, sent_of_rollbacks hback, f, ?_⟩
    cases htold with
    | words htells =>
        cases htells
        exact ⟨_, hfault, rfl⟩
    | other h => exact absurd hd h

/-- Columns are added among others. On success every declared column is there, and each one that is told was added by
a statement of this call, and there at no call before. A statement for a column that was there at a call before it,
or when it was sent, fails, is told, and is the last one sent. -/
theorem addColumns_among_others (hs : Shared d t view met) (link : Link σ) :
    Ends (addColumns d t) link fun new r link' =>
      (∀ report, r = .ok report → (∀ column ∈ t.columns, (view link'.server).HasColumn d column) ∧
        ∀ column ∈ report.columns, Gains d t met column link.server new) ∧
      (Server.FailsAsDriver link.server → ∀ before after batch sql outcome,
        new = before ++ ⟨.exec sql, outcome⟩ :: after → batch.Sublist t.columns → d.addColumns t batch = .ok [sql] →
        (∃ column ∈ batch, Server.Meets met (·.HasColumn d column) link.server (before ++ [⟨.exec sql, outcome⟩])) →
          outcome ≠ .done ∧ sent after = [] ∧ ∃ f index, Server.Faults link.server before (.exec sql) f ∧
            r = .error (.sink (.statement sql f.driverMessage index))) := by
  refine Ends.mono (addColumns_tells hs (R := fun _ => True) (fun _ => trivial) link) ?_
  rintro new r link' hx ⟨-, hr⟩
  constructor
  · rintro report rfl
    obtain ⟨hclean, -, hadds, hcases⟩ := hr
    have hgains := fun column hc => gains_of_adds hs hx.answered hclean (hadds column hc)
    rw [hx.server]
    refine ⟨fun column hc => ?_, fun column hc => (hgains column hc).1⟩
    rcases hcases column hc with hm | hmet
    · exact (hgains column hm).2
    · exact hs.of_meets (fun _ _ hw => hw.columns _) hx.answered hclean hmet
  · rintro hdriver before after batch sql outcome rfl hsub hbuilt hmet
    have hfailing := not_done_of_meets hs hx.answered hsub hbuilt hmet
    cases r with
    | ok report => exact absurd hr.1 (not_clean hfailing)
    | error e =>
        rcases hr with hhalts | ⟨hclean, -⟩
        · obtain ⟨hfailed, hlast, f, index, hfault, rfl⟩ := hhalts.statement hdriver hfailing
          exact ⟨hfailed, hlast, f, index, hfault, rfl⟩
        · exact absurd hclean (not_clean hfailing)

/-- A table with no column yet, to which another client adds one before the first question. -/
def joinedCrowd : Crowd .mysql pairTable := ⟨tableCatalog [], [[.addColumns "db" "t" ["a"]]]⟩

/-- A table with no column yet, to which another client adds one after both questions. -/
def racedCrowd : Crowd .mysql pairTable :=
  ⟨tableCatalog [], List.replicate 5 [] ++ [[.addColumns "db" "t" ["b"]]]⟩

def addB : String := "ALTER TABLE `db`.`t` ADD COLUMN `b` INT"

/-- The statement for the second column is refused, and met that column. -/
theorem racedCrowd_run : ∃ e link', addColumns .mysql pairTable (.fresh racedCrowd) = .error e link' ∧
    ∃ before after, link'.events = before ++ ⟨.exec addB, .refused⟩ :: after ∧
      Server.Meets (Crowd.met .mysql pairTable) (·.HasColumn .mysql (.plain "b" "INT")) racedCrowd
        (before ++ [⟨.exec addB, .refused⟩]) := by
  have hraced : fails (fun link => sent (link.events.drop 5) == [(addB, .refused)] &&
        (Server.after racedCrowd ((link.events.take 5).map Event.call)).faced.knows .mysql pairTable "b")
      (addColumns .mysql pairTable (.fresh racedCrowd)) = true := by decide +kernel
  obtain ⟨e, link', herror, hlink⟩ := of_fails hraced
  obtain ⟨hsent, hknown⟩ := Bool.and_eq_true_iff.mp hlink
  obtain ⟨before, after, hsplit, -⟩ := split_of_sent (beq_iff_eq.mp hsent)
  refine ⟨e, link', herror, link'.events.take 5 ++ before, after, ?_, ?_⟩
  · rw [List.append_assoc, ← hsplit, List.take_append_drop]
  · rw [List.append_assoc]
    refine Server.meets_append.mpr (.inr ?_)
    cases before <;> exact .inl hknown

theorem addColumns_among_others_raced :
    Shared .mysql pairTable (Crowd.view .mysql pairTable) (Crowd.met .mysql pairTable) ∧
      (∃ report link', addColumns .mysql pairTable (.fresh joinedCrowd) = .ok report link' ∧
        report.executed = [addB] ∧
        ∀ column ∈ pairTable.columns, (Crowd.view .mysql pairTable link'.server).HasColumn .mysql column) ∧
      Server.FailsAsDriver racedCrowd ∧
      ∃ (f : Fault) (index : Option Int) (link' : Link (Crowd .mysql pairTable)),
        addColumns .mysql pairTable (.fresh racedCrowd)
          = .error (.sink (.statement addB f.driverMessage index)) link' := by
  have hs := pairCrowd_shared
  have hdriver := racedCrowd.failsAsDriver
  have hjoined : succeeds (fun report _ => report.executed == [addB])
      (addColumns .mysql pairTable (.fresh joinedCrowd)) = true := by decide +kernel
  obtain ⟨report, joined, hok, hexecuted⟩ := of_succeeds hjoined
  obtain ⟨e, raced, herror, before, after, hevents, hmeets⟩ := racedCrowd_run
  refine ⟨hs, ⟨report, joined, hok, beq_iff_eq.mp hexecuted, ?_⟩, hdriver, ?_⟩
  · obtain ⟨_, -, htold, -⟩ := (addColumns_among_others hs _).of_ok hok
    exact (htold report rfl).1
  · obtain ⟨new, hx, -, htold⟩ := (addColumns_among_others hs _).of_error herror
    have hnew : new = before ++ ⟨.exec addB, .refused⟩ :: after := hx.events.symm.trans hevents
    obtain ⟨-, -, f, index, -, hr⟩ := htold hdriver before after [.plain "b" "INT"] addB .refused hnew
      (.cons _ (.refl _)) rfl ⟨_, List.mem_singleton_self _, hmeets⟩
    cases hr
    exact ⟨f, index, raced, herror⟩

/-! ## Ensuring a table -/

/-- The table was asked for when it was not there. Then the statement that makes it was sent, and met a sight as `p`
tells; nothing was sent between the two or afterwards. -/
inductive Creates (d : Dialect) (t : Table) (met : σ → Call → Sight) (p : Sight → Prop) (s : σ) : List Event → Prop
  | done {before between after : List Event} {query : Query} {sql : String}
      (asked : d.tableExists t.database t.name = .ok query)
      (absent : ¬(met (Server.after s (before.map Event.call)) (.query query.sql query.params)).HasTable d t)
      (built : d.createTable t = .ok sql) (waiting : sent between = []) (last : sent after = [])
      (found : p (met (Server.after s ((before ++ ⟨.query query.sql query.params, .done⟩ :: between).map Event.call))
        (.exec sql))) :
      Creates d t met p s (before ++ ⟨.query query.sql query.params, .done⟩ :: between ++ executed sql :: after)

section Creates

variable {p q : Sight → Prop}

theorem Creates.before (h : Creates d t met p (Server.after s (new.map Event.call)) more) :
    Creates d t met p s (new ++ more) := by
  cases h with
  | @done before between after query sql asked absent built waiting last found =>
      rw [← Server.after_append, ← List.map_append] at absent found
      rw [← List.append_assoc new] at found
      rw [← List.append_assoc, ← List.append_assoc]
      exact .done asked absent built waiting last found

theorem Creates.after (h : Creates d t met p s new) (hm : sent more = []) : Creates d t met p s (new ++ more) := by
  cases h with
  | @done before between after query sql asked absent built waiting last found =>
      have hlast : sent (after ++ more) = [] := by rw [sent_append, last, hm, List.append_nil]
      rw [List.append_assoc]
      exact .done asked absent built waiting hlast found

theorem Creates.imp (h : Creates d t met p s new) (hq : ∀ v, p v → q v) : Creates d t met q s new := by
  cases h with
  | done asked absent built waiting last found => exact .done asked absent built waiting last (hq _ found)

theorem Creates.sent (h : Creates d t met p s new) :
    ∃ sql, d.createTable t = .ok sql ∧ (sql, .done) ∈ Task.sent new := by
  cases h with
  | @done before between after query sql _ _ built _ _ _ =>
      refine ⟨sql, built, ?_⟩
      rw [sent_append, executed, sent_exec]
      exact List.mem_append_right _ List.mem_cons_self

theorem Creates.cases (h : Creates d t met p s new) :
    Creates d t met (·.HasTable d t) s new ∨ Creates d t met (¬·.HasTable d t) s new := by
  cases h with
  | done asked absent built waiting last =>
      exact (Classical.em _).imp (.done asked absent built waiting last) (.done asked absent built waiting last)

end Creates

section Tables

variable (hs : Shared d t view met)
include hs

theorem tableExists_tells {R : List Event → Prop} (hr : ∀ new, R new) (link : Link σ) :
    Runs d True (tableExists d t.database t.name) link R fun found new =>
      ∃ query, d.tableExists t.database t.name = .ok query ∧ new = [⟨.query query.sql query.params, .done⟩] ∧
        (found = false → ¬(met link.server (.query query.sql query.params)).HasTable d t) := by
  refine .checkSink (checkName_fails _ _) (hr []) ?_
  intro home _
  refine .checkSink (checkName_fails _ _) (hr []) ?_
  intro name hname
  obtain ⟨hname, -⟩ := checkName_eq_ok.mp hname
  refine .check ((tableExists_fails _ _).rejecting (hr [])) ?_
  intro query hquery
  refine (fetch_runs _ _ link).bind ?_
  rintro rows new link' hx ⟨rfl, ha⟩
  refine .checkShape (fun _ _ => trivial) ?_
  intro found hfound
  refine .afterNote fun _ _ => .pure ⟨query, hquery, rfl, ?_⟩
  rintro rfl hthere
  have hanswers := hs.table _ query rows hquery ha
  rw [hname] at hanswers hfound
  obtain ⟨found, hcontain, hiff⟩ := hanswers.rowsContain
  cases hcontain.symm.trans hfound
  rw [Sight.HasTable, hname] at hthere
  cases hiff.mpr hthere

theorem createTable_tells {R : List Event → Prop} (hr : ∀ new, R new) (link : Link σ) :
    Runs d True (createTable d t) link R fun report new =>
      report.executed = [] ∨ report.executed ≠ [] ∧ Creates d t met (fun _ => True) link.server new := by
  refine (tableExists_tells hs hr link).bind ?_
  rintro found new link₁ hx ⟨query, hquery, rfl, habsent⟩
  split
  · refine .afterNote fun link₂ hx' => ?_
    refine (columns_tells hs (fun _ => hr _) link₂).bind ?_
    rintro found more link₃ - -
    exact .pure (.inl rfl)
  · rename_i hmissing
    refine .check ((createTable_fails (.inl trivial)).rejecting (hr _)) ?_
    intro sql hsql
    refine (execute_runs sql link₁).bind ?_
    intro _ more link₂ _ hsends
    refine .afterNote fun link₃ _ => ?_
    refine (columns_tells hs (fun _ => hr _) link₃).bind ?_
    rintro columns last link₄ - ⟨describing, -, rfl, -⟩
    refine .pure (.inr ⟨List.cons_ne_nil _ _, ?_⟩)
    obtain ⟨between, after, rfl, hwaiting, hafter⟩ := split_of_sent hsends
    have hcreates : Creates d t met (fun _ => True) link.server
        ([] ++ ⟨.query query.sql query.params, .done⟩ :: between ++ executed sql :: after) :=
      .done hquery (habsent (Bool.eq_false_iff.mpr hmissing)) hsql hwaiting hafter trivial
    rw [← List.append_assoc]
    exact hcreates.after rfl

/-- A table that was not there at its statement was made with all of its columns. -/
theorem hasColumn_of_creates (ha : Server.Answered s new) (hc : Clean new)
    (h : Creates d t met (¬·.HasTable d t) s new) (hcolumn : column ∈ t.columns) :
    (view (Server.after s (new.map Event.call))).HasColumn d column := by
  cases h with
  | @done before between after query sql _ _ built _ _ found =>
      obtain ⟨-, hrest⟩ := List.forall_mem_append.mp hc
      obtain ⟨-, hafter⟩ := List.forall_mem_cons.mp hrest
      obtain ⟨-, hdone, haafter⟩ := Server.Answered.of_append ha
      have hmade := hs.makes _ sql built hdone.symm found column hcolumn
      rw [List.map_append, Server.after_append]
      exact (hs.within_after haafter hafter).columns _ hmade

theorem ensureTable_tells {R : List Event → Prop} (hr : ∀ new, R new) (link : Link σ) :
    Runs d True (ensureTable d t) link R fun _ new =>
      Creates d t met (fun _ => True) link.server new ∨
        ∀ column ∈ t.columns, Adds d t column new ∨ Server.Meets met (·.HasColumn d column) link.server new := by
  refine (createDatabase_runs (.inl trivial) (hr [])).bind ?_
  rintro home new link₁ hx -
  refine (createTable_tells hs (fun _ => hr _) link₁).bind ?_
  rintro table more link₂ hx' hcreates
  split
  · rename_i hnone
    refine (addColumns_tells hs (fun _ => hr _) link₂).bind ?_
    rintro added most link₃ hx'' ⟨hadds, hcases⟩
    refine (columns_tells hs (fun _ => hr _) link₃).bind ?_
    rintro found last link₄ - -
    refine .pure (.inr fun column hc => ?_)
    rcases hcases column hc with hm | hmet
    · exact .inl (hadds column hm).after.before.before
    · exact .inr (Server.meets_later hx (Server.meets_later hx' (Server.meets_append.mpr (.inl hmet))))
  · rename_i hsome
    refine (columns_tells hs (fun _ => hr _) link₂).bind ?_
    rintro found last link₃ - ⟨_, -, rfl, -⟩
    rcases hcreates with hnone | ⟨-, hcreates⟩
    · exact absurd (List.isEmpty_iff.mpr hnone) hsome
    · rw [hx.server] at hcreates
      exact .pure (.inl (hcreates.after rfl).before)

/-- A table is ensured among others. On success every declared column is there, unless another client made the table
between the question for it and the statement that makes it: then nothing was sent any more. -/
theorem ensureTable_among_others (link : Link σ) :
    Ends (ensureTable d t) link fun new r link' => ∀ report, r = .ok report →
      (∀ column ∈ t.columns, (view link'.server).HasColumn d column) ∨
        Creates d t met (·.HasTable d t) link.server new := by
  refine Ends.mono (ensureTable_tells hs (R := fun _ => True) (fun _ => trivial) link) ?_
  rintro new _ link' hx ⟨-, hr⟩ report rfl
  obtain ⟨hclean, -, hcreates | hcases⟩ := hr
  -- The statement that makes the table is the last one sent, so what it met decides.
  · refine hcreates.cases.symm.imp_left fun hmade column hc => ?_
    rw [hx.server]
    exact hasColumn_of_creates hs hx.answered hclean hmade hc
  · refine .inl fun column hc => ?_
    rw [hx.server]
    rcases hcases column hc with hadds | hmet
    · exact (gains_of_adds hs hx.answered hclean hadds).2
    · exact hs.of_meets (fun _ _ hw => hw.columns _) hx.answered hclean hmet

end Tables

/-- A database without the table. Another client makes the table, with one of the two columns, before the question
for it. -/
def foundCrowd : Crowd .mysql pairTable :=
  ⟨⟨(· == "db"), fun _ _ => none⟩, [[], [.makeTable "db" "t" ["a"]]]⟩

theorem ensureTable_among_others_found :
    Shared .mysql pairTable (Crowd.view .mysql pairTable) (Crowd.met .mysql pairTable) ∧
      ∃ report link', ensureTable .mysql pairTable (.fresh foundCrowd) = .ok report link' ∧
        report.executed = [addB] ∧
        ∀ column ∈ pairTable.columns, (Crowd.view .mysql pairTable link'.server).HasColumn .mysql column := by
  have hs := pairCrowd_shared
  have hfound : succeeds (fun report link => report.executed == [addB] && sent link.events == [(addB, .done)])
      (ensureTable .mysql pairTable (.fresh foundCrowd)) = true := by decide +kernel
  obtain ⟨report, found, hok, hreport⟩ := of_succeeds hfound
  obtain ⟨hexecuted, hsent⟩ := Bool.and_eq_true_iff.mp hreport
  refine ⟨hs, report, found, hok, beq_iff_eq.mp hexecuted, ?_⟩
  obtain ⟨new, hx, htold⟩ := (ensureTable_among_others hs _).of_ok hok
  rw [show found.events = new from hx.events] at hsent
  refine (htold report rfl).resolve_right fun hcreates => ?_
  obtain ⟨sql, hbuilt, hmem⟩ := hcreates.sent
  rw [beq_iff_eq.mp hsent] at hmem
  cases List.mem_singleton.mp hmem
  have hother : (Dialect.createTable pairTable .mysql).toOption ≠ some addB := by decide
  exact hother (congrArg Except.toOption hbuilt)

/-- A database without the table. Another client makes the table, with one of the two columns, after the question
for it. -/
def lostCrowd : Crowd .mysql pairTable :=
  ⟨⟨(· == "db"), fun _ _ => none⟩, [[], [], [.makeTable "db" "t" ["a"]]]⟩

/-- A table that another client makes after the question for it lacks a column, and success is told. -/
theorem ensureTable_leaves_column_out :
    Shared .mysql pairTable (Crowd.view .mysql pairTable) (Crowd.met .mysql pairTable) ∧
      ∃ report link', ensureTable .mysql pairTable (.fresh lostCrowd) = .ok report link' ∧ report.success = true ∧
        ∃ column ∈ pairTable.columns, ¬(Crowd.view .mysql pairTable link'.server).HasColumn .mysql column := by
  have hlost : succeeds (fun report link => report.success && !link.server.catalog.knows .mysql pairTable "b")
      (ensureTable .mysql pairTable (.fresh lostCrowd)) = true := by decide +kernel
  obtain ⟨report, link', hok, hreport⟩ := of_succeeds hlost
  obtain ⟨hsuccess, hlacks⟩ := Bool.and_eq_true_iff.mp hreport
  refine ⟨pairCrowd_shared, report, link', hok, hsuccess, .plain "b" "INT", ?_, ?_⟩
  · exact List.mem_cons_of_mem _ (List.mem_singleton_self _)
  · exact Bool.eq_false_iff.mp (Bool.not_eq_true' _ ▸ hlacks)

end Task

end SinkKeeper
