import SinkKeeper.Proofs.Proceeds

/-!
# Batches without a transaction

A batch whose statements run each on its own stops at a known place. It returns only after every statement was done
and committed; otherwise the error tells the statement that failed, all before it were done and committed, and none
after it was sent. A batch of one statement does what running the statement does.
-/

namespace SinkKeeper.Task

variable {σ : Type} [Server σ] {s : σ} {new before : List Event} {sql : String} {f : Fault}

/-! ## One statement -/

/-- Statements that were done, each with a commit of its own. -/
def committedEach (statements : List String) : List Event :=
  statements.flatMap fun sql => [executed sql, ⟨.commit, .done⟩]

/-- The calls for a statement that fails after other events: it is refused, or its commit fails. -/
inductive Stops (s : σ) (before : List Event) (sql : String) (f : Fault) : List Event → Prop
  | unexecuted {outcome : Outcome} (failed : outcome ≠ .done) (fault : Server.Faults s before (.exec sql) f) :
      Stops s before sql f [⟨.exec sql, outcome⟩]
  | uncommitted {outcome : Outcome} (failed : outcome ≠ .done)
      (fault : Server.Faults s (before ++ [executed sql]) .commit f) :
      Stops s before sql f [executed sql, ⟨.commit, outcome⟩]

theorem Stops.fault (h : Stops s before sql f new) (hd : Server.FailsAsDriver s) : f.kind.isDriver = true := by
  cases h with
  | unexecuted _ fault => exact hd.faults fault
  | uncommitted _ fault => exact hd.faults fault

theorem Stops.later {link link' : Link σ} {stage : List Event} (h : Stops link'.server before sql f new)
    (hx : link.Extends stage link') : Stops link.server (stage ++ before) sql f new := by
  cases h with
  | unexecuted failed fault => exact .unexecuted failed (fault.later hx)
  | uncommitted failed fault =>
      refine .uncommitted failed ?_
      rw [List.append_assoc]
      exact fault.later hx

/-- A statement that fails is rolled back once, and told whatever the rollback comes to. -/
theorem runAndCommit_stops (sql : String) (index : Option Int) (link : Link σ) :
    Ends (runAndCommit sql index) link fun new r _ =>
      match r with
      | .ok () => new = committedEach [sql]
      | .error e => Server.FailsAsDriver link.server → ∃ f failing back, Stops link.server [] sql f failing ∧
          new = failing ++ [⟨.rollback, back⟩] ∧ e = .sink (.statement sql f.driverMessage index) := by
  refine .onFault ((statement_ends sql link).mono ?_)
  rintro new (e | ⟨⟩) link' hx hq
  · obtain ⟨f, outcome, ho, rfl, hnew⟩ := hq
    have hstops : Stops link.server [] sql f new := by
      obtain ⟨rfl, hf⟩ | ⟨rfl, hf⟩ := hnew
      · exact .unexecuted ho hf
      · exact .uncommitted ho hf
    refine ⟨fun f' he _ => ?_, fun hk hd => absurd ((hk f rfl).symm.trans (hstops.fault hd)) Bool.false_ne_true⟩
    cases he
    refine .bind ((rollbackQuietly_ends link').mono ?_)
    rintro _ _ link'' _ ⟨back, rfl, rfl | ⟨_, rfl, hnot⟩⟩
    · refine .throw fun _ => ⟨f, new, back, hstops, ?_, rfl⟩
      rw [List.append_nil]
    · exact fun hd => absurd (hd.later hx) hnot
  · exact ⟨fun _ h => (nomatch h), fun _ => hq⟩

/-! ## Several statements -/

/-- Statements, counted from `index`, of which one failed: those before it were done and committed, it was rolled back
once, and what is told is the statement and its place. -/
inductive Stopped (s : σ) (index : Nat) (statements : List String) : List Event → Failure → Prop
  | halted (before rest : List String) {sql : String} {f : Fault} {failing : List Event} {back : Outcome}
      (split : statements = before ++ sql :: rest) (stops : Stops s (committedEach before) sql f failing) :
      Stopped s index statements (committedEach before ++ failing ++ [⟨.rollback, back⟩])
        (.sink (.statement sql f.driverMessage (some ↑(index + before.length))))

theorem executeEachFrom_stops (index : Nat) (statements : List String) (link : Link σ) :
    Ends (executeEachFrom index statements) link fun new r _ =>
      match r with
      | .ok () => new = committedEach statements
      | .error e => Server.FailsAsDriver link.server → Stopped link.server index statements new e := by
  -- The index moves on with each statement, so that the one told is the place in the whole list.
  induction statements generalizing index link with
  | nil => exact .pure rfl
  | cons sql statements ih =>
      refine .bind ((runAndCommit_stops sql (some index) link).mono ?_)
      rintro new (e | ⟨⟩) link₁ hx hq
      · intro hd
        obtain ⟨f, failing, back, hstops, rfl, rfl⟩ := hq hd
        exact .halted [] statements rfl hstops
      · subst hq
        refine (ih (index + 1) link₁).mono ?_
        rintro more (e | ⟨⟩) link₂ _ hq
        · intro hd
          cases hq (hd.later hx) with
          | @halted before rest sql' f failing back split stops =>
              have hplace : index + 1 + before.length = index + (sql :: before).length := by
                rw [List.length_cons]
                omega
              rw [hplace, ← List.append_assoc, ← List.append_assoc]
              exact .halted (sql :: before) rest (congrArg (sql :: ·) split) (stops.later hx)
        · rw [hq]
          rfl

/-! ## A batch of one -/

/-- An error of a statement with its place in a batch. -/
def atPlace (index : Int) : Failure → Failure
  | .sink (.statement sql message _) => .sink (.statement sql message (some index))
  | e => e

theorem runAndCommit_placed (sql : String) (index : Int) (link : Link σ) :
    ∃ new r link', runAndCommit sql none link = ended r link' ∧
      runAndCommit sql (some index) link = ended (r.mapError (atPlace index)) link' ∧ link.Extends new link' := by
  obtain ⟨new, r, link₁, hwork, hx, hr⟩ := statement_ends sql link
  unfold runAndCommit Task.onFault
  rw [hwork]
  cases r with
  | ok _ => exact ⟨new, .ok (), link₁, rfl, rfl, hx⟩
  | error e =>
      obtain ⟨f, -, -, rfl, -⟩ := hr
      dsimp only [ended]
      split
      -- The rollback is the same for both; what it ends with is a fault, which has no place.
      · obtain ⟨_, back, link₂, hback, hx', _, rfl, rfl | ⟨f', rfl, -⟩⟩ := rollbackQuietly_ends link₁
        · refine ⟨_, .error (.sink (.statement sql f.driverMessage none)), link₂, ?_, ?_, hx.trans hx'⟩
          · exact bind_ended hback
          · exact bind_ended hback
        · refine ⟨_, .error (.fault f'), link₂, ?_, ?_, hx.trans hx'⟩
          · exact bind_ended hback
          · exact bind_ended hback
      · exact ⟨new, .error (.fault f), link₁, rfl, rfl, hx⟩

theorem executeBatch_single (sql : String) (link : Link σ) :
    ∃ new r alone batch, execute sql link = ended r alone ∧
      executeBatch [sql] false link = ended (r.mapError (atPlace 0)) batch ∧
      link.Extends new alone ∧ link.Extends new batch := by
  obtain ⟨new, r, link', halone, hplaced, hx⟩ := runAndCommit_placed sql 0 link
  have hone : executeEachFrom 0 [sql] link = ended (r.mapError (atPlace 0)) link' := by
    cases r with
    | ok _ => exact bind_ended hplaced
    | error e => exact bind_ended hplaced
  have hnoted : ∀ notes, link.Extends new { link' with notes } :=
    fun _ => ⟨hx.events, hx.answered, hx.server, hx.inTransaction⟩
  cases r with
  | ok _ => exact ⟨new, .ok (), _, _, bind_ended halone, bind_ended hone, hnoted _, hnoted _⟩
  | error e => exact ⟨new, .error e, link', link', bind_ended halone, bind_ended hone, hx, hx⟩

/-! ## The whole batch -/

theorem executeEach_stops (statements : List String) (link : Link σ) :
    Ends (executeEach statements) link fun new r _ =>
      match r with
      | .ok () => new = committedEach statements
      | .error e => Server.FailsAsDriver link.server → Stopped link.server 0 statements new e := by
  refine .bind ((executeEachFrom_stops 0 statements link).mono ?_)
  rintro new (e | ⟨⟩) link' _ hq
  · exact hq
  · refine .note fun _ _ => ?_
    rw [hq, List.append_nil]

/-- A batch without a transaction runs each statement and commits it, up to the first that fails: that one is told with
its place, it is rolled back once, and none after it is sent. A batch of one statement makes the calls that running the
statement makes, and ends as that does, but for the place. -/
theorem executeBatch_stops_at_failure (statements : List String) (link : Link σ)
    (hd : Server.FailsAsDriver link.server) :
    Ends (executeBatch statements false) link (fun new r _ =>
      match r with
      | .ok () => new = committedEach statements
      | .error e => Stopped link.server 0 statements new e) ∧
    ∀ sql, ∃ new r alone batch, execute sql link = ended r alone ∧
      executeBatch [sql] false link = ended (r.mapError (atPlace 0)) batch ∧
      link.Extends new alone ∧ link.Extends new batch := by
  refine ⟨?_, fun sql => executeBatch_single sql link⟩
  cases statements with
  | nil => exact Ends.pure rfl
  | cons sql statements =>
      refine (executeEach_stops (sql :: statements) link).mono ?_
      rintro new (e | ⟨⟩) link' _ hq
      · exact hq hd
      · exact hq

/-- A script in which the second commit times out and the rollback loses the connection. -/
def lostCommit : Script :=
  { Script.empty with
    breakages := [⟨.commit, some 2, none, .plain .timeout "timed out"⟩,
      ⟨.rollback, none, none, .plain .reset "connection lost"⟩] }

theorem executeBatch_stops_at_commit :
    Server.FailsAsDriver lostCommit ∧
      ∃ e link', executeBatch ["ALTER 1", "ALTER 2", "ALTER 3"] false (.fresh lostCommit) = .error e link' ∧
        link'.events = committedEach ["ALTER 1"] ++
          [executed "ALTER 2", ⟨.commit, .broken⟩, ⟨.rollback, .broken⟩] ∧
        ∃ f, Stops lostCommit (committedEach ["ALTER 1"]) "ALTER 2" f [executed "ALTER 2", ⟨.commit, .broken⟩] ∧
          e = .sink (.statement "ALTER 2" f.driverMessage (some 1)) := by
  have hd : Server.FailsAsDriver lostCommit :=
    Script.failsAsDriver (by decide) (by simp [lostCommit, Script.empty])
  have hrun : executeBatch ["ALTER 1", "ALTER 2", "ALTER 3"] false (.fresh lostCommit)
      = .error (.sink (.statement "ALTER 2" "timed out" (some 1))) _ := rfl
  obtain ⟨new, hx, hstopped⟩ :=
    (executeBatch_stops_at_failure ["ALTER 1", "ALTER 2", "ALTER 3"] (.fresh lostCommit) hd).1.of_error hrun
  generalize htold : Failure.sink _ = e at hstopped
  have hevents := hx.events
  cases hstopped with
  | @halted before rest sql f failing back hsplit hstops =>
      simp only [Failure.sink.injEq, SinkError.statement.injEq, Option.some.injEq] at htold
      obtain ⟨rfl, hmessage, hplace⟩ := htold
      have hlength : before.length = 1 := by omega
      obtain ⟨first, rfl⟩ := List.length_eq_one_iff.mp hlength
      cases hsplit
      cases hstops with
      | unexecuted => cases hevents
      | uncommitted failed fault =>
          cases hevents
          exact ⟨hd, _, _, hrun, rfl, f, .uncommitted failed fault, by rw [hmessage]⟩

end SinkKeeper.Task
