import SinkKeeper.Proofs.Refusals

/-!
# How work halts

Over a connection the first call that fails is the last one, a rollback aside, and the failure tells the fault of
that call. `Runs` says so of work, and that work in which no call fails either refuses something or gives its
result, with every statement committed.
-/

namespace SinkKeeper

/-- The calls that are made over a connection. -/
def Call.isWork : Call → Bool
  | .query .. | .exec _ | .start | .commit | .rollback => true
  | .createEngine .. | .connect | .close | .dispose => false

/-- What is told of a driver's fault, by the call that met it. -/
inductive Dialect.Tells (d : Dialect) (f : Fault) : Call → SinkError → Prop
  | query {sql params} :
      Tells d f (.query sql params) (.unanswered (d.name ++ " query failed: " ++ f.driverMessage) (some sql))
  | exec {sql index} : Tells d f (.exec sql) (.statement sql f.driverMessage index)
  | start : Tells d f .start (.statement "COMMIT" f.driverMessage none)
  | commit {sql index} : Tells d f .commit (.statement sql f.driverMessage index)

/-- A failure that is not the rejection of anything. -/
def Failure.Unrejected (e : Failure) : Prop := ∀ x, e = .sink x → ¬x.Invalid

theorem Failure.Unrejected.fault (f : Fault) : (Failure.fault f).Unrejected := fun _ h => nomatch h

theorem Failure.Unrejected.statement (sql message : String) (index : Option Int) :
    (Failure.sink (.statement sql message index)).Unrejected := by
  intro x hx
  cases hx
  exact fun h => nomatch h

namespace Task

variable {σ α β : Type} [Server σ] {d : Dialect} {s : σ} {as bs new before after : List Event} {c : Call} {f : Fault}
  {e : Failure} {outcome : Outcome} {link link' : Link σ}

/-! ## Commits -/

/-- Every statement is followed by a commit that was done. -/
def Committed : List Event → Prop
  | [] => True
  | e :: rest => (∀ sql, e.call = .exec sql → ⟨.commit, .done⟩ ∈ rest) ∧ Committed rest

theorem Committed.append (ha : Committed as) (hb : Committed bs) : Committed (as ++ bs) := by
  induction as with
  | nil => exact hb
  | cons e as ih =>
      obtain ⟨hcommit, hrest⟩ := ha
      exact ⟨fun sql hc => List.mem_append_left bs (hcommit sql hc), ih hrest⟩

theorem committed_of_sent (h : sent new = []) : Committed new := by
  induction new with
  | nil => trivial
  | cons e new ih =>
      cases hc : e.call with
      | exec sql => simp [sent, hc] at h
      | _ =>
          simp only [sent, List.filterMap_cons, hc] at h
          exact ⟨fun _ he => (nomatch hc.symm.trans he), ih h⟩

theorem committed_executed (statements : List String) :
    Committed (statements.map executed ++ [⟨.commit, .done⟩]) := by
  induction statements with
  | nil => exact ⟨fun _ h => (nomatch h), trivial⟩
  | cons sql statements ih => exact ⟨fun _ _ => by simp, ih⟩

/-! ## Failures that reject nothing -/

theorem unrejected_retold {tell : Fault → Failure} (ht : ∀ f, (tell f).Unrejected) (he : e.Unrejected) :
    (retold tell e).Unrejected := by
  cases e with
  | fault f =>
      simp only [retold]
      split
      · exact ht f
      · exact he
  | _ => exact he

theorem unrejected_afterLostRollback (he : e.Unrejected) (f : Fault) :
    (afterLostRollback e (.fault f)).Unrejected := by
  cases e with
  | sink x =>
      simp only [afterLostRollback]
      split
      · exact he
      · exact .fault f
  | _ => exact .fault f

/-! ## The call that failed -/

/-- What is told of a fault at a call: its words. A server whose faults are not only drivers' faults may make
something else be told, but no rejection. -/
inductive Told (d : Dialect) (s : σ) (c : Call) (f : Fault) : Failure → Prop
  | words {e : SinkError} (h : d.Tells f c e) : Told d s c f (.sink e)
  | other {e : Failure} (h : ¬Server.FailsAsDriver s) (he : e.Unrejected) : Told d s c f e

/-- Calls of which one failed: those before it were done, and nothing but a rollback came after it. -/
inductive Halts (d : Dialect) (s : σ) : List Event → Failure → Prop
  | failed {before after : List Event} {c : Call} {outcome : Outcome} {f : Fault} {e : Failure} (clean : Clean before)
      (failed : outcome ≠ .done) (fault : Server.Faults s before c f)
      (back : ∀ event ∈ after, event.call = .rollback) (told : Told d s c f e) :
      Halts d s (before ++ ⟨c, outcome⟩ :: after) e

theorem Told.raw {f' : Fault} (h : ¬Server.FailsAsDriver s) : Told d s c f (.fault f') := .other h (.fault f')

theorem Told.unrejected (h : Told d s c f e) : e.Unrejected := by
  cases h with
  | words h =>
      intro x hx
      cases hx
      cases h <;> exact fun hinvalid => nomatch hinvalid
  | other _ he => exact he

theorem Told.later (h : Told d link'.server c f e) (hx : link.Extends new link') : Told d link.server c f e := by
  cases h with
  | words ht => exact .words ht
  | other hd he => exact .other (fun hdriver => hd (hdriver.later hx)) he

theorem Told.retold {tell : Fault → SinkError} (hf : Server.Faults s before c f) (ht : d.Tells f c (tell f)) :
    Told d s c f (Task.retold (fun f => .sink (tell f)) (.fault f)) := by
  by_cases hk : f.kind.isDriver = true
  · rw [retold_of_isDriver hk]
    exact .words ht
  · rw [Task.retold, if_neg hk]
    exact .raw fun hd => hk (hd.faults hf)

theorem Halts.later (h : Halts d link'.server as e) (hc : Clean new) (hx : link.Extends new link') :
    Halts d link.server (new ++ as) e := by
  cases h with
  | failed clean failed fault back told =>
      rw [← List.append_assoc]
      exact .failed (hc.append clean) failed (fault.later hx) back (told.later hx)

theorem Halts.unrejected (h : Halts d s new e) : e.Unrejected := by
  cases h with
  | failed _ _ _ _ told => exact told.unrejected

theorem Halts.last (clean : Clean before) (failed : outcome ≠ .done) (fault : Server.Faults s before c f)
    (told : Told d s c f e) : Halts d s (before ++ [⟨c, outcome⟩]) e :=
  .failed clean failed fault (List.forall_mem_nil _) told

theorem Halts.first (failed : outcome ≠ .done) (fault : Server.Faults s [] c f) (told : Told d s c f e) :
    Halts d s [⟨c, outcome⟩] e := .last (List.forall_mem_nil _) failed fault told

theorem Halts.rolledBack {back : Outcome} (clean : Clean before) (failed : outcome ≠ .done)
    (fault : Server.Faults s before c f) (told : Told d s c f e) :
    Halts d s (before ++ [⟨c, outcome⟩] ++ [⟨.rollback, back⟩]) e := by
  rw [List.append_assoc]
  exact .failed clean failed fault (List.forall_mem_singleton.mpr rfl) told

/-! ## Runs -/

/-- Work that halts at the first call that fails. If none fails, it refuses something, as `R` tells for a
rejection, or it gives a result as `P` tells. -/
def Runs (d : Dialect) (loose : Prop) (work : Task σ α) (link : Link σ) (R : List Event → Prop)
    (P : α → List Event → Prop) : Prop :=
  Ends work link fun new r _ => (∀ event ∈ new, event.call.isWork = true) ∧
    match r with
    | .ok a => Clean new ∧ Committed new ∧ P a new
    | .error e => Halts d link.server new e ∨ Clean new ∧ Refusal loose (R new) e

variable {loose : Prop} {work : Task σ α} {next : α → Task σ β} {R : List Event → Prop} {P : α → List Event → Prop}
  {P' : β → List Event → Prop}

theorem Runs.mono {P' : α → List Event → Prop} (h : Runs d loose work link R P) (hp : ∀ a new, P a new → P' a new) :
    Runs d loose work link R P' := by
  refine Ends.mono h ?_
  rintro new (e | a) link' _ ⟨hw, hr⟩
  · exact ⟨hw, hr⟩
  · exact ⟨hw, hr.1, hr.2.1, hp a new hr.2.2⟩

theorem Runs.pure {a : α} (h : P a []) : Runs d loose (pure a) link R P :=
  Ends.pure ⟨List.forall_mem_nil _, List.forall_mem_nil _, trivial, h⟩

theorem Runs.bind (h : Runs d loose work link R P)
    (hnext : ∀ a new link', link.Extends new link' → P a new →
      Runs d loose (next a) link' (fun more => R (new ++ more)) fun b more => P' b (new ++ more)) :
    Runs d loose (work >>= next) link R P' := by
  refine Ends.bind (Ends.mono h ?_)
  rintro new (e | a) link' hx ⟨hw, hr⟩
  · exact ⟨hw, hr⟩
  · obtain ⟨hc, hcommitted, hp⟩ := hr
    refine Ends.mono (hnext a new link' hx hp) ?_
    rintro more (e | b) link'' _ ⟨hw', hr'⟩
    · refine ⟨List.forall_mem_append.mpr ⟨hw, hw'⟩, ?_⟩
      exact hr'.imp (fun hh => hh.later hc hx) fun ⟨hc', href⟩ => ⟨hc.append hc', href⟩
    · exact ⟨List.forall_mem_append.mpr ⟨hw, hw'⟩, hc.append hr'.1, hcommitted.append hr'.2.1, hr'.2.2⟩

theorem Runs.note {level : Level} {text : String} {P : Unit → List Event → Prop} (h : P () []) :
    Runs d loose (note level text) link R P :=
  Ends.note fun _ _ => ⟨List.forall_mem_nil _, List.forall_mem_nil _, trivial, h⟩

theorem Runs.afterNote {level : Level} {text : String} {next : Unit → Task σ β}
    (h : ∀ link', link.Extends [] link' → Runs d loose (next ()) link' R P') :
    Runs d loose (Task.note level text >>= next) link R P' := by
  refine Runs.bind (P := fun _ new => new = []) (.note rfl) ?_
  rintro _ _ link' hx rfl
  exact h link' hx

/-! ## Checks on the way -/

theorem Runs.check {x : Except Failure α} (hx : Fails (Refusal loose (R [])) x)
    (h : ∀ a, x = .ok a → Runs d loose (next a) link R P') : Runs d loose (liftM x >>= next) link R P' := by
  cases x with
  | error e => exact Ends.bind (Ends.throw ⟨List.forall_mem_nil _, .inr ⟨List.forall_mem_nil _, hx e rfl⟩⟩)
  | ok a => exact h a rfl

theorem Runs.checkSink {x : Except SinkError α} (hx : Fails SinkError.Invalid x) (hr : R [])
    (h : ∀ a, x = .ok a → Runs d loose (next a) link R P') : Runs d loose (liftM x >>= next) link R P' := by
  cases x with
  | error e =>
      refine Ends.bind (Ends.throw ⟨List.forall_mem_nil _, .inr ⟨List.forall_mem_nil _, ?_⟩⟩)
      exact .invalid (hx e rfl) hr
  | ok a => exact h a rfl

theorem Runs.checkShape {x : Except ShapeError α} (hx : Fails (fun _ => loose) x)
    (h : ∀ a, x = .ok a → Runs d loose (next a) link R P') : Runs d loose (liftM x >>= next) link R P' := by
  cases x with
  | error e => exact Ends.bind (Ends.throw ⟨List.forall_mem_nil _, .inr ⟨List.forall_mem_nil _, .shape (hx e rfl)⟩⟩)
  | ok a => exact h a rfl

/-! ## Queries -/

theorem fetch_runs (sql : String) (params : Json.Fields) (link : Link σ) :
    Runs d loose (fetch d sql params) link R fun rows new =>
      new = [⟨.query sql params, .done⟩] ∧ (Server.respond link.server (.query sql params)).1 = .rows rows := by
  refine .retold (.call ?_ ?_)
  · intro rows link' ha _
    refine ⟨List.forall_mem_singleton.mpr rfl, ?_, committed_of_sent rfl, rfl, ha⟩
    exact .cons .nil
  · intro f outcome link' hf ho _
    have hfault : Server.Faults link.server [] (.query sql params) f := hf
    exact ⟨List.forall_mem_singleton.mpr rfl, .inl (.first ho hfault (.retold hfault .query))⟩

end Task

end SinkKeeper
