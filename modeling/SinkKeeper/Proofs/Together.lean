import SinkKeeper.Proofs.Ends
import SinkKeeper.Server.Execution

/-!
# Batches in one transaction

A batch that runs together is all or nothing: it returns only after every statement and a commit, and when it
fails nothing is committed after the transaction was opened, no statement follows the one that failed, and the
error tells the statement, also when rolling back fails too.
-/

namespace SinkKeeper.Task

variable {σ : Type} [Server σ]

/-! ## Courses of the parts -/

def statementFailed (sql : String) (index : Nat) (f : Fault) : Failure :=
  .sink (.statement sql f.driverMessage (some index))

/-- The events that settle what was open before: a commit if a transaction was open. -/
def settling (open? : Bool) : List Event := if open? then [⟨.commit, .done⟩] else []

theorem sendFrom_ends (index : Nat) (statements : List String) (link : Link σ) :
    Ends (sendFrom index statements) link fun new r _ =>
      match r with
      | .ok () => new = statements.map executed
      | .error e => ∃ before sql rest outcome f, statements = before ++ sql :: rest ∧
          new = before.map executed ++ [⟨.exec sql, outcome⟩] ∧ outcome ≠ .done ∧
          Server.Faults link.server (before.map executed) (.exec sql) f ∧
          e = retold (statementFailed sql (index + before.length)) (.fault f) := by
  -- The index moves on with each statement sent, so that the one told is the place in the whole list.
  induction statements generalizing index link with
  | nil => exact .pure rfl
  | cons sql statements ih =>
      refine .bind (.retold (.perform ?_ ?_))
      · intro link₁ hx
        refine (ih (index + 1) link₁).mono ?_
        rintro new (e | ⟨⟩) link₂ _ hq
        · obtain ⟨before, sql', rest, outcome, f, rfl, rfl, ho, hf, rfl⟩ := hq
          refine ⟨sql :: before, sql', rest, outcome, f, rfl, rfl, ho, hf.later hx, ?_⟩
          simp [Nat.add_assoc, Nat.add_comm 1]
        · simp [hq, executed]
      · intro f outcome link₁ hf ho _
        exact ⟨[], sql, statements, outcome, f, rfl, rfl, ho, hf, rfl⟩

theorem openTransaction_ends (link : Link σ) :
    Ends openTransaction link fun new r _ =>
      match r with
      | .ok () => new = settling link.inTransaction ++ [⟨.start, .done⟩]
      | .error e => ∃ f outcome, outcome ≠ .done ∧ e = .fault f ∧
          (link.inTransaction = true ∧ new = [⟨.commit, outcome⟩] ∧ Server.Faults link.server [] .commit f ∨
            new = settling link.inTransaction ++ [⟨.start, outcome⟩] ∧
              Server.Faults link.server (settling link.inTransaction) .start f) := by
  refine .bind (.get ?_)
  show Ends (if link.inTransaction = true then perform .commit >>= fun _ => perform .start else perform .start) _ _
  split
  · rename_i ht
    refine .bind (.perform ?_ ?_)
    · intro link₁ hx
      have hs : settling link.inTransaction = [⟨.commit, .done⟩] := by simp [settling, ht]
      rw [hs]
      refine .perform (fun _ _ => rfl) fun f outcome _ hf ho _ => ?_
      exact ⟨f, outcome, ho, rfl, .inr ⟨rfl, hx.faults hf⟩⟩
    · intro f outcome _ hf ho _
      exact ⟨f, outcome, ho, rfl, .inl ⟨ht, rfl, hf⟩⟩
  · rename_i ht
    have hs : settling link.inTransaction = [] := by simp [settling, ht]
    rw [hs]
    exact .perform (fun _ _ => rfl) fun f outcome _ hf ho _ => ⟨f, outcome, ho, rfl, .inr ⟨rfl, hf⟩⟩

theorem abandon_ends (e : Failure) (link : Link σ) :
    Ends (abandon e) link fun new r _ => ∃ outcome, new = [⟨.rollback, outcome⟩] ∧
      (outcome = .done ∧ r = .error e ∨
        ∃ f, (Server.FailsAsDriver link.server → f.kind.isDriver = true) ∧
          r = .error (afterLostRollback e (.fault f))) := by
  have hp : Ends (perform .rollback) link fun new r _ => ∃ outcome, new = [⟨.rollback, outcome⟩] ∧
      (outcome = .done ∧ r = .ok () ∨
        ∃ f, (Server.FailsAsDriver link.server → f.kind.isDriver = true) ∧ r = .error (.fault f)) :=
    .perform (fun _ _ => ⟨_, rfl, .inl ⟨rfl, rfl⟩⟩) fun f _ _ hf _ _ => ⟨_, rfl, .inr ⟨f, fun h => h.now hf, rfl⟩⟩
  obtain ⟨new, r, link', hr, hx, outcome, rfl, ⟨ho, rfl⟩ | ⟨f, hd, rfl⟩⟩ := hp
  · exact ⟨_, .error e, link', by simp [abandon, hr, ended], hx, outcome, rfl, .inl ⟨ho, rfl⟩⟩
  · exact ⟨_, .error (afterLostRollback e (.fault f)), link', by simp [abandon, hr, ended], hx, outcome, rfl,
      .inr ⟨f, hd, rfl⟩⟩

theorem Ends.inTransaction {work : Task σ Unit} {link : Link σ}
    {Q : List Event → Except Failure Unit → Link σ → Prop}
    (h : Ends work link fun new r link' =>
      match r with
      | .ok () => Ends (Task.perform .commit) link' fun more r link'' => Q (new ++ more) r link''
      | .error e => Ends (abandon e) link' fun more r link'' => Q (new ++ more) r link'') :
    Ends (inTransaction work) link Q := by
  obtain ⟨new, e | ⟨⟩, link₁, hw, hx, more, r, link₂, hr, hm, hq⟩ := h
  all_goals
    refine ⟨new ++ more, r, link₂, ?_, hx.trans hm, hq⟩
    simpa [Task.inTransaction, hw, ended] using hr

/-! ## Courses of a batch -/

/-- The courses that a batch in one transaction can take: which call failed, and the failure that is told. If
all faults are drivers' faults, which `drivers` says, then those told are. -/
inductive Course (drivers : Prop) (statements : List String) (open? : Bool) :
    List Event → Except Failure Unit → Prop
  | unsettled {outcome f} (failed : outcome ≠ .done) (driver : drivers → f.kind.isDriver = true)
      (was : open? = true) :
      Course drivers statements open? [⟨.commit, outcome⟩] (.error (retold transactionFailed (.fault f)))
  | unopened {outcome f} (failed : outcome ≠ .done) (driver : drivers → f.kind.isDriver = true) :
      Course drivers statements open? (settling open? ++ [⟨.start, outcome⟩])
        (.error (retold transactionFailed (.fault f)))
  | refused {before sql rest outcome f back e} (sent : statements = before ++ sql :: rest)
      (failed : outcome ≠ .done) (driver : drivers → f.kind.isDriver = true)
      (told : drivers → e = statementFailed sql before.length f) :
      Course drivers statements open?
        (settling open? ++ ⟨.start, .done⟩ ::
          (before.map executed ++ [⟨.exec sql, outcome⟩, ⟨.rollback, back⟩])) (.error e)
  | uncommitted {outcome f} (failed : outcome ≠ .done) (driver : drivers → f.kind.isDriver = true) :
      Course drivers statements open?
        (settling open? ++ ⟨.start, .done⟩ :: (statements.map executed ++ [⟨.commit, outcome⟩]))
        (.error (retold transactionFailed (.fault f)))
  | committed :
      Course drivers statements open?
        (settling open? ++ ⟨.start, .done⟩ :: (statements.map executed ++ [⟨.commit, .done⟩])) (.ok ())

theorem executeTogether_ends (statements : List String) (link : Link σ) :
    Ends (executeTogether statements) link fun new r _ =>
      Course (Server.FailsAsDriver link.server) statements link.inTransaction new r := by
  refine .bind (.retold (.bind ((openTransaction_ends link).mono ?_)))
  rintro new (e | ⟨⟩) link₁ hx hq
  · obtain ⟨f, outcome, ho, rfl, ⟨ht, rfl, hf⟩ | ⟨rfl, hf⟩⟩ := hq
    · exact .unsettled ho (fun h => h.faults hf) ht
    · exact .unopened ho fun h => h.faults hf
  · subst hq
    refine .inTransaction ((sendFrom_ends 0 statements link₁).mono ?_)
    rintro more (e | ⟨⟩) link₂ hm hq
    · obtain ⟨before, sql, rest, outcome, f, hs, rfl, ho, hf, rfl⟩ := hq
      refine (abandon_ends _ link₂).mono ?_
      have hdriver : Server.FailsAsDriver link.server → f.kind.isDriver = true := fun h => (h.later hx).faults hf
      -- If the rollback fails too, the failure of the statement is the one that is told.
      rintro _ _ link₃ _ ⟨back, rfl, ⟨-, rfl⟩ | ⟨f', hd', rfl⟩⟩
      all_goals
        show Course _ _ _ _ (.error _)
        rw [List.append_assoc, List.append_assoc]
        refine .refused hs ho hdriver fun h => ?_
      · simp [retold, hdriver h, statementFailed]
      · simp [retold, hdriver h, hd' ((h.later hx).later hm), statementFailed, afterLostRollback]
    · subst hq
      refine .perform (fun link₃ _ => ?_) fun f outcome link₃ hf ho _ => ?_
      · exact .note fun _ _ => by simpa using Course.committed
      · show Course _ _ _ _ (.error _)
        rw [List.append_assoc]
        exact .uncommitted ho fun h => ((h.later hx).later hm).now hf

/-! ## All or nothing -/

@[simp] theorem sent_settling (open? : Bool) : sent (settling open?) = [] := by cases open? <;> rfl

variable {drivers : Prop} {statements : List String} {open? : Bool} {new : List Event} {e : Failure}

theorem commit_not_mem_executed (statements : List String) :
    (⟨.commit, .done⟩ : Event) ∉ statements.map executed := by simp [executed]

/-- The commit that settles what was open comes before the transaction of the batch. -/
theorem commit_not_mem_after {tail before after : List Event} {outcome : Outcome}
    (h : settling open? ++ tail = before ++ ⟨.start, outcome⟩ :: after)
    (ht : (⟨.commit, .done⟩ : Event) ∉ tail) : (⟨.commit, .done⟩ : Event) ∉ after := by
  cases open? with
  | false =>
      have hb : tail = before ++ ⟨.start, outcome⟩ :: after := by simpa [settling] using h
      intro hm
      exact ht (by simp [hb, hm])
  | true =>
      cases before with
      | nil => simp [settling] at h
      | cons first before =>
          have hb : tail = before ++ ⟨.start, outcome⟩ :: after := List.tail_eq_of_cons_eq h
          intro hm
          exact ht (by simp [hb, hm])

theorem Course.nothing_committed (h : Course drivers statements open? new (.error e)) {before after : List Event}
    {outcome : Outcome} (hn : new = before ++ ⟨.start, outcome⟩ :: after) :
    (⟨.commit, .done⟩ : Event) ∉ after := by
  cases h with
  | unsettled => cases before <;> simp at hn
  | unopened => exact commit_not_mem_after hn (by simp)
  | refused => exact commit_not_mem_after hn (by simp [commit_not_mem_executed])
  | uncommitted failed =>
      exact commit_not_mem_after hn (by simp [commit_not_mem_executed, Ne.symm failed])

theorem Course.sent_prefix (h : Course drivers statements open? new (.error e)) :
    (sent new).map (·.1) <+: statements ∧ ∀ s ∈ (sent new).dropLast, s.2 = .done := by
  cases h with
  | unsettled => simp
  | unopened => simp
  | refused hs => simp [hs, List.map_map, Function.comp_def]
  | uncommitted =>
      refine ⟨by simp [List.map_map, Function.comp_def], fun s hs => ?_⟩
      obtain ⟨sql, -, rfl⟩ := List.mem_map.mp (by simpa using List.dropLast_subset _ hs)
      rfl

theorem refused_iff {before : List String} {sql : String} {outcome : Outcome} {i : Nat} {s : String × Outcome}
    (h : (before.map (fun sql => (sql, Outcome.done)) ++ [(sql, outcome)])[i]? = some s) (hs : s.2 ≠ .done) :
    i = before.length ∧ s = (sql, outcome) := by
  rcases Nat.lt_trichotomy i before.length with hi | rfl | hi
  · simp [List.getElem?_append_left, hi] at h
    simp [← h] at hs
  · exact ⟨rfl, by simpa using h.symm⟩
  · rw [List.getElem?_append_right (by simpa using Nat.le_of_lt hi)] at h
    have : i - before.length ≠ 0 := by omega
    simp [this] at h

theorem Course.told (h : Course drivers statements open? new (.error e)) (hd : drivers) :
    (∀ (i : Nat) sql outcome, (sent new)[i]? = some (sql, outcome) → outcome ≠ .done →
      statements[i]? = some sql ∧ ∃ message, e = .sink (.statement sql message (some i))) ∧
    ((∀ s ∈ sent new, s.2 = .done) → ∃ message, e = .sink (.statement "COMMIT" message none)) := by
  cases h with
  | unsettled _ driver =>
      exact ⟨by simp, fun _ => ⟨_, retold_of_isDriver (driver hd)⟩⟩
  | unopened _ driver =>
      exact ⟨by simp, fun _ => ⟨_, retold_of_isDriver (driver hd)⟩⟩
  | @refused before sql rest outcome f back _ hs failed driver told =>
      refine ⟨fun i sql' outcome' hi ho => ?_, fun hall => ?_⟩
      · obtain ⟨rfl, heq⟩ := refused_iff (by simpa using hi) ho
        cases heq
        exact ⟨by simp [hs], _, told hd⟩
      · exact absurd (hall (sql, outcome) (by simp)) failed
  | uncommitted _ driver =>
      refine ⟨fun i sql outcome hi ho => ?_, fun _ => ⟨_, retold_of_isDriver (driver hd)⟩⟩
      simp only [sent_append, sent_settling, sent_start, sent_executed, sent_commit, sent_nil,
        List.nil_append, List.append_nil] at hi
      obtain ⟨_, -, heq⟩ := List.mem_map.mp (List.mem_of_getElem? hi)
      cases heq
      exact absurd rfl ho

theorem Course.rolled_back (h : Course drivers statements open? new (.error e)) {s : String × Outcome}
    (hs : s ∈ sent new) (hf : s.2 ≠ .done) : ∃ before outcome, new = before ++ [⟨.rollback, outcome⟩] := by
  cases h with
  | unsettled => simp at hs
  | unopened => simp at hs
  | @refused before sql rest outcome f back =>
      exact ⟨settling open? ++ ⟨.start, .done⟩ :: (before.map executed ++ [⟨.exec sql, outcome⟩]), back,
        by simp⟩
  | uncommitted =>
      obtain ⟨_, -, rfl⟩ := List.mem_map.mp (by simpa using hs)
      exact absurd rfl hf

/-- A batch in one transaction is all or nothing. It returns only after all of its statements and the commit;
if it fails, nothing is committed after the transaction was opened and no statement follows one that failed,
the error tells what failed, and a rollback that succeeds leaves no transaction open. -/
theorem executeBatch_all_or_nothing {statements : List String} (hne : statements ≠ []) (link : Link σ) :
    Ends (executeBatch statements true) link fun new r link' =>
      match r with
      | .ok () =>
        new = settling link.inTransaction ++
          ⟨.start, .done⟩ :: (statements.map executed ++ [⟨.commit, .done⟩]) ∧
        link'.inTransaction = false
      | .error e =>
        (∀ before after outcome, new = before ++ ⟨.start, outcome⟩ :: after →
          (⟨.commit, .done⟩ : Event) ∉ after) ∧
        ((sent new).map (·.1) <+: statements ∧ ∀ s ∈ (sent new).dropLast, s.2 = .done) ∧
        (Server.FailsAsDriver link.server →
          (∀ (i : Nat) sql outcome, (sent new)[i]? = some (sql, outcome) → outcome ≠ .done →
            statements[i]? = some sql ∧ ∃ message, e = .sink (.statement sql message (some i))) ∧
          ((∀ s ∈ sent new, s.2 = .done) → ∃ message, e = .sink (.statement "COMMIT" message none))) ∧
        (∀ s ∈ sent new, s.2 ≠ .done → ∃ before outcome, new = before ++ [⟨.rollback, outcome⟩] ∧
          (outcome = .done → link'.inTransaction = false)) := by
  have hb : executeBatch statements true = (executeTogether statements : Task σ Unit) := by
    simp [executeBatch, hne]
  rw [hb]
  refine (executeTogether_ends statements link).mono ?_
  rintro new (e | ⟨⟩) link' hx hc
  · refine ⟨fun _ _ _ => hc.nothing_committed, hc.sent_prefix, hc.told, fun s hs hf => ?_⟩
    obtain ⟨before, outcome, rfl⟩ := hc.rolled_back hs hf
    refine ⟨before, outcome, rfl, ?_⟩
    rintro rfl
    simp [hx.inTransaction, openAfter, transactionAfter]
  · cases hc
    refine ⟨rfl, ?_⟩
    simp [hx.inTransaction, openAfter, transactionAfter]

/-- A script in which the second statement times out and the rollback loses the connection. -/
def lostConnection : Script :=
  { Script.empty with
    breakages := [⟨.exec, none, some "ALTER 2", .plain .timeout "timed out"⟩,
      ⟨.rollback, none, none, .plain .reset "connection lost"⟩] }

theorem executeBatch_second_refused :
    ["ALTER 1", "ALTER 2", "ALTER 3"] ≠ [] ∧ Server.FailsAsDriver lostConnection ∧
      ∃ e link', executeBatch ["ALTER 1", "ALTER 2", "ALTER 3"] true ⟨lostConnection, true, [], []⟩
          = .error e link' ∧
        sent link'.events = [("ALTER 1", .done), ("ALTER 2", .broken)] ∧
        ∃ message, e = .sink (.statement "ALTER 2" message (some 1)) := by
  have hd : Server.FailsAsDriver lostConnection :=
    Script.failsAsDriver (by decide) (by simp [lostConnection, Script.empty])
  have hrun : executeBatch ["ALTER 1", "ALTER 2", "ALTER 3"] true ⟨lostConnection, true, [], []⟩
      = .error (.sink (.statement "ALTER 2" "timed out" (some 1))) _ := rfl
  obtain ⟨new, hx, -, -, htold, -⟩ := (executeBatch_all_or_nothing (by decide) _).of_error hrun
  have hs : sent new = [("ALTER 1", .done), ("ALTER 2", .broken)] := (congrArg sent hx.events).symm
  refine ⟨by decide, hd, _, _, hrun, rfl, ?_⟩
  exact ((htold hd).1 1 "ALTER 2" .broken (by rw [hs]; rfl) (by decide)).2

end SinkKeeper.Task
