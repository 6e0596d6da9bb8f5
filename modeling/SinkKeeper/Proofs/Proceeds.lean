import SinkKeeper.Proofs.Honest
import SinkKeeper.Proofs.Together
import SinkKeeper.Reconcile

/-!
# Tasks for a table

A task for a table makes calls for that table only. If it gives a result, all of its calls were done; if it
fails, one of them was not. `Proceeds` says so, and with it that a task which has nothing to do only asks, even
if it fails.
-/

namespace SinkKeeper.Task

variable {σ α β : Type} [Server σ] {d : Dialect} {t : Table} {link : Link σ} {work : Task σ α} {quiet : Prop}
  {P : α → List Event → Link σ → Prop}

/-- Only queries were made. -/
def Asks (new : List Event) : Prop := ∀ e ∈ new, ∃ sql params, e.call = .query sql params

theorem sent_of_asks {new : List Event} (h : Asks new) : sent new = [] := by
  refine List.filterMap_eq_nil_iff.mpr fun e he => ?_
  obtain ⟨sql, params, hc⟩ := h e he
  simp [hc]

/-- A task for a table gives a result as `P` tells if no call of it fails, and only asks if it is quiet. -/
def Proceeds (d : Dialect) (t : Table) (work : Task σ α) (link : Link σ) (quiet : Prop)
    (P : α → List Event → Link σ → Prop) : Prop :=
  Ends work link fun new r link' => (∀ e ∈ new, d.Makes t e.call) ∧ (quiet → Asks new) ∧
    match r with
    | .ok a => Clean new ∧ P a new link'
    | .error _ => ∃ e ∈ new, e.outcome ≠ .done

theorem Clean.append {as bs : List Event} (ha : Clean as) (hb : Clean bs) : Clean (as ++ bs) :=
  List.forall_mem_append.mpr ⟨ha, hb⟩

theorem Clean.nil : Clean [] := List.forall_mem_nil _

theorem Clean.cons {c : Call} {events : List Event} (hr : Clean events) (h : c ≠ .rollback := by rintro ⟨⟩) :
    Clean (⟨c, .done⟩ :: events) := List.forall_mem_cons.mpr ⟨⟨rfl, h⟩, hr⟩

theorem Proceeds.mono {P' : α → List Event → Link σ → Prop} (h : Proceeds d t work link quiet P)
    (hp : ∀ a new link', P a new link' → P' a new link') : Proceeds d t work link quiet P' := by
  refine Ends.mono h ?_
  rintro new (e | a) link' _ ⟨hm, hs, hr⟩
  · exact ⟨hm, hs, hr⟩
  · exact ⟨hm, hs, hr.1, hp a new link' hr.2⟩

theorem Proceeds.quieter {quiet' : Prop} (hq : quiet' → quiet) (h : Proceeds d t work link quiet P) :
    Proceeds d t work link quiet' P := by
  refine Ends.mono h ?_
  rintro new (e | a) link' _ ⟨hm, hs, hr⟩
  · exact ⟨hm, fun hquiet => hs (hq hquiet), hr⟩
  · exact ⟨hm, fun hquiet => hs (hq hquiet), hr⟩

theorem Proceeds.pure {a : α} (h : P a [] link) : Proceeds d t (pure a : Task σ α) link quiet P :=
  Ends.pure ⟨List.forall_mem_nil _, fun _ => List.forall_mem_nil _, List.forall_mem_nil _, h⟩

/-- What follows is quiet as long as what was before was. -/
theorem Proceeds.bind {next : α → Task σ β} {P' : β → List Event → Link σ → Prop}
    (h : Proceeds d t work link quiet P)
    (hnext : ∀ a new link', link.Extends new link' → (∀ e ∈ new, d.Makes t e.call) → Clean new → P a new link' →
      Proceeds d t (next a) link' quiet fun b more link'' => P' b (new ++ more) link'') :
    Proceeds d t (work >>= next) link quiet P' := by
  refine Ends.bind (Ends.mono h ?_)
  rintro new (e | a) link' hx ⟨hm, hs, hr⟩
  · exact ⟨hm, hs, hr⟩
  · refine Ends.mono (hnext a new link' hx hm hr.1 hr.2) ?_
    rintro more (e | b) link'' _ ⟨hm', hs', hr'⟩
    · obtain ⟨e, he, hf⟩ := hr'
      exact ⟨List.forall_mem_append.mpr ⟨hm, hm'⟩, fun hq => List.forall_mem_append.mpr ⟨hs hq, hs' hq⟩, e,
        List.mem_append_right new he, hf⟩
    · exact ⟨List.forall_mem_append.mpr ⟨hm, hm'⟩, fun hq => List.forall_mem_append.mpr ⟨hs hq, hs' hq⟩,
        hr.1.append hr'.1, hr'.2⟩

theorem Proceeds.note {level : Level} {text : String} {P : Unit → List Event → Link σ → Prop}
    (h : ∀ link', link.Extends [] link' → P () [] link') : Proceeds d t (note level text) link quiet P :=
  Ends.note fun link' hx => ⟨List.forall_mem_nil _, fun _ => List.forall_mem_nil _, List.forall_mem_nil _, h link' hx⟩

theorem Proceeds.afterNote {level : Level} {text : String} {next : Unit → Task σ β}
    {P : β → List Event → Link σ → Prop}
    (h : ∀ link', link.Extends [] link' → Proceeds d t (next ()) link' quiet P) :
    Proceeds d t (Task.note level text >>= next) link quiet P :=
  Ends.bind (Ends.note fun link' hx => h link' hx)

theorem Proceeds.after {check : Task σ α} {next : α → Task σ β} {a : α} {P : β → List Event → Link σ → Prop}
    (hc : check = Pure.pure a) (h : Proceeds d t (next a) link quiet P) :
    Proceeds d t (check >>= next) link quiet P := by
  subst hc
  exact h

/-! ## Queries -/

theorem fetch_proceeds (sql : String) (params : Json.Fields) (link : Link σ) :
    Proceeds d t (fetch d sql params) link quiet fun rows new _ =>
      Asks new ∧ (Server.respond link.server (.query sql params)).1 = .rows rows := by
  have hasks : ∀ outcome, Asks [⟨.query sql params, outcome⟩] :=
    fun _ => List.forall_mem_singleton.mpr ⟨sql, params, rfl⟩
  refine .retold (.call ?_ ?_)
  · intro rows link' ha _
    refine ⟨List.forall_mem_singleton.mpr .query, fun _ => hasks _, ?_, hasks _, ha⟩
    exact Clean.cons .nil
  · intro f outcome link' _ ho _
    exact ⟨List.forall_mem_singleton.mpr .query, fun _ => hasks _, _, List.mem_singleton_self _, ho⟩

/-! ## Statements -/

/-- Statements that are sent and all done. -/
def Sends (statements : List String) (new : List Event) : Prop :=
  sent new = statements.map fun sql => (sql, .done)

theorem Sends.append {as bs : List String} {new more : List Event} (ha : Sends as new) (hb : Sends bs more) :
    Sends (as ++ bs) (new ++ more) := by
  rw [Sends, sent_append, ha, hb, List.map_append]

theorem Sends.of_asks {new : List Event} (h : Asks new) : Sends [] new := sent_of_asks h

theorem statement_ends (sql : String) (link : Link σ) :
    Ends (do perform (.exec sql); perform .commit) link fun new r _ =>
      match r with
      | .ok () => new = [executed sql, ⟨.commit, .done⟩]
      | .error e => ∃ f outcome, outcome ≠ .done ∧ e = .fault f ∧
          (new = [⟨.exec sql, outcome⟩] ∧ Server.Faults link.server [] (.exec sql) f ∨
            new = [executed sql, ⟨.commit, outcome⟩] ∧ Server.Faults link.server [executed sql] .commit f) := by
  refine .bind (.perform ?_ ?_)
  · intro link' hx
    refine .perform (fun _ _ => rfl) fun f outcome _ hf ho _ => ?_
    exact ⟨f, outcome, ho, rfl, .inr ⟨rfl, hx.faults hf⟩⟩
  · intro f outcome _ hf ho _
    exact ⟨f, outcome, ho, rfl, .inl ⟨rfl, hf⟩⟩

theorem rollbackQuietly_ends (link : Link σ) :
    Ends rollbackQuietly link fun new r _ => ∃ outcome, new = [⟨.rollback, outcome⟩] ∧
      (r = .ok () ∨ ∃ f, r = .error (.fault f) ∧ ¬Server.FailsAsDriver link.server) := by
  refine .onFault (.perform ?_ ?_)
  · intro link' _
    exact ⟨fun _ h => (nomatch h), fun _ => ⟨_, rfl, .inl rfl⟩⟩
  · intro f outcome link' hf _ _
    refine ⟨fun _ _ _ => .note fun _ _ => ⟨outcome, rfl, .inl rfl⟩, fun hk => ⟨outcome, rfl, .inr ⟨f, rfl, ?_⟩⟩⟩
    intro hd
    exact Bool.false_ne_true ((hk f rfl).symm.trans (hd.now hf))

section Execution

variable {sql : String} {statements : List String}

theorem runAndCommit_proceeds {ddl : Ddl} (h : d.Builds t sql ddl) (index : Option Int) (link : Link σ) :
    Proceeds d t (runAndCommit sql index) link False fun _ new _ => Sends [sql] new := by
  have hfailed : ∀ {new : List Event} {outcome : Outcome}, outcome ≠ .done →
      (new = [⟨.exec sql, outcome⟩] ∨ new = [executed sql, ⟨.commit, outcome⟩]) →
      (∀ e ∈ new, d.Makes t e.call) ∧ ∃ e ∈ new, e.outcome ≠ .done := by
    rintro new outcome ho (rfl | rfl)
    · exact ⟨List.forall_mem_singleton.mpr (.exec h), _, List.mem_singleton_self _, ho⟩
    · exact ⟨List.forall_mem_cons.mpr ⟨.exec h, List.forall_mem_singleton.mpr .commit⟩, _,
        List.mem_cons_of_mem _ (List.mem_singleton_self _), ho⟩
  refine .onFault ((statement_ends sql link).mono ?_)
  rintro new (e | ⟨⟩) link' _ hq
  · obtain ⟨_, outcome, ho, -, hnew⟩ := hq
    obtain ⟨hm, hf⟩ := hfailed ho (hnew.imp And.left And.left)
    refine ⟨fun f _ _ => .bind ((rollbackQuietly_ends link').mono ?_), fun _ => ⟨hm, False.elim, hf⟩⟩
    -- Whatever the rollback comes to, the call that failed stays among the events.
    have hafter : ∀ back : Outcome, (∀ e ∈ new ++ [⟨.rollback, back⟩], d.Makes t e.call) ∧
        ∃ e ∈ new ++ [⟨.rollback, back⟩], e.outcome ≠ .done := by
      intro back
      obtain ⟨e, he, hne⟩ := hf
      exact ⟨List.forall_mem_append.mpr ⟨hm, List.forall_mem_singleton.mpr .rollback⟩, e,
        List.mem_append_left _ he, hne⟩
    rintro _ (e | ⟨⟩) link'' _ ⟨back, rfl, -⟩
    · exact ⟨(hafter back).1, False.elim, (hafter back).2⟩
    · refine .throw ?_
      rw [List.append_nil]
      exact ⟨(hafter back).1, False.elim, (hafter back).2⟩
  · subst hq
    refine ⟨fun _ h => (nomatch h), fun _ => ⟨?_, False.elim, ?_, rfl⟩⟩
    · exact List.forall_mem_cons.mpr ⟨.exec h, List.forall_mem_singleton.mpr .commit⟩
    · exact Clean.cons (.cons .nil)

theorem execute_proceeds {ddl : Ddl} (h : d.Builds t sql ddl) (link : Link σ) :
    Proceeds d t (execute sql) link False fun _ new _ => Sends [sql] new := by
  refine (runAndCommit_proceeds h none link).bind fun _ new _ _ _ _ hs => .note fun _ _ => ?_
  rwa [List.append_nil]

theorem executeEachFrom_proceeds (h : ∀ sql ∈ statements, ∃ ddl, d.Builds t sql ddl) (index : Nat) (link : Link σ) :
    Proceeds d t (executeEachFrom index statements) link False fun _ new _ => Sends statements new := by
  induction statements generalizing index link with
  | nil => exact .pure rfl
  | cons sql statements ih =>
      obtain ⟨⟨ddl, hb⟩, hrest⟩ := List.forall_mem_cons.mp h
      refine (runAndCommit_proceeds hb (some index) link).bind fun _ new link' _ _ _ hs => ?_
      exact (ih hrest (index + 1) link').mono fun _ more _ hm => hs.append hm

theorem executeEach_proceeds (h : ∀ sql ∈ statements, ∃ ddl, d.Builds t sql ddl) (link : Link σ) :
    Proceeds d t (executeEach statements) link False fun _ new _ => Sends statements new := by
  refine (executeEachFrom_proceeds h 0 link).bind fun _ new _ _ _ _ hs => .note fun _ _ => ?_
  rwa [List.append_nil]

/-! ## Courses of a batch for a table -/

theorem clean_executed (statements : List String) : Clean (statements.map executed) := by
  intro e he
  obtain ⟨sql, -, rfl⟩ := List.mem_map.mp he
  exact ⟨rfl, fun h => nomatch h⟩

theorem clean_settling (open? : Bool) : Clean (settling open?) := by
  cases open? with
  | false => exact List.forall_mem_nil _
  | true => exact .cons .nil

theorem makes_settling (open? : Bool) : ∀ e ∈ settling open?, d.Makes t e.call := by
  cases open? with
  | false => exact List.forall_mem_nil _
  | true => exact List.forall_mem_singleton.mpr .commit

theorem makes_executed (h : ∀ sql ∈ statements, ∃ ddl, d.Builds t sql ddl) :
    ∀ e ∈ statements.map executed, d.Makes t e.call := by
  intro e he
  obtain ⟨sql, hm, rfl⟩ := List.mem_map.mp he
  obtain ⟨ddl, hb⟩ := h sql hm
  exact .exec hb

variable {drivers : Prop} {open? : Bool} {new : List Event}

theorem Course.makes {r : Except Failure Unit} (h : Course drivers statements open? new r)
    (hb : ∀ sql ∈ statements, ∃ ddl, d.Builds t sql ddl) : ∀ e ∈ new, d.Makes t e.call := by
  cases h with
  | unsettled => exact List.forall_mem_singleton.mpr .commit
  | unopened => exact List.forall_mem_append.mpr ⟨makes_settling _, List.forall_mem_singleton.mpr .start⟩
  | @refused before sql rest outcome _ back _ hs =>
      subst hs
      obtain ⟨hbefore, hrest⟩ := List.forall_mem_append.mp hb
      obtain ⟨⟨ddl, hsql⟩, -⟩ := List.forall_mem_cons.mp hrest
      refine List.forall_mem_append.mpr ⟨makes_settling _, List.forall_mem_cons.mpr ⟨.start, ?_⟩⟩
      refine List.forall_mem_append.mpr ⟨makes_executed hbefore, List.forall_mem_cons.mpr ⟨.exec hsql, ?_⟩⟩
      exact List.forall_mem_singleton.mpr .rollback
  | uncommitted =>
      refine List.forall_mem_append.mpr ⟨makes_settling _, List.forall_mem_cons.mpr ⟨.start, ?_⟩⟩
      exact List.forall_mem_append.mpr ⟨makes_executed hb, List.forall_mem_singleton.mpr .commit⟩
  | committed =>
      refine List.forall_mem_append.mpr ⟨makes_settling _, List.forall_mem_cons.mpr ⟨.start, ?_⟩⟩
      exact List.forall_mem_append.mpr ⟨makes_executed hb, List.forall_mem_singleton.mpr .commit⟩

theorem Course.failed {e : Failure} (h : Course drivers statements open? new (.error e)) :
    ∃ e ∈ new, e.outcome ≠ .done := by
  cases h with
  | unsettled failed => exact ⟨_, List.mem_singleton_self _, failed⟩
  | unopened failed => exact ⟨_, List.mem_append_right _ (List.mem_singleton_self _), failed⟩
  | @refused _ sql _ outcome _ _ _ _ failed => exact ⟨⟨.exec sql, outcome⟩, by simp, failed⟩
  | @uncommitted outcome _ failed => exact ⟨⟨.commit, outcome⟩, by simp, failed⟩

theorem Course.clean (h : Course drivers statements open? new (.ok ())) : Clean new ∧ Sends statements new := by
  cases h with
  | committed =>
      refine ⟨(clean_settling _).append (.cons ?_), by simp [Sends]⟩
      exact (clean_executed _).append (.cons .nil)

theorem executeTogether_proceeds (h : ∀ sql ∈ statements, ∃ ddl, d.Builds t sql ddl) (link : Link σ) :
    Proceeds d t (executeTogether statements) link False fun _ new _ => Sends statements new := by
  refine (executeTogether_ends statements link).mono ?_
  rintro new (e | ⟨⟩) link' _ hc
  · exact ⟨hc.makes h, False.elim, hc.failed⟩
  · exact ⟨hc.makes h, False.elim, hc.clean⟩

theorem executeBatch_proceeds (h : ∀ sql ∈ statements, ∃ ddl, d.Builds t sql ddl) (together : Bool) (link : Link σ) :
    Proceeds d t (executeBatch statements together) link False fun _ new _ => Sends statements new := by
  unfold executeBatch
  split
  · rename_i hn
    rw [List.isEmpty_iff.mp hn]
    exact .pure rfl
  · split
    · exact executeTogether_proceeds h link
    · exact executeEach_proceeds h link

end Execution

end SinkKeeper.Task
