import SinkKeeper.Proofs.Halts

/-!
# How statements halt

Statements that run halt at the first call that fails and tell the statement: each with a commit of its own, or all
in one transaction, where the statement is told even if rolling back fails too.
-/

namespace SinkKeeper.Task

variable {σ : Type} [Server σ] {d : Dialect} {s : σ} {before : List Event} {f : Fault} {loose : Prop}
  {R : List Event → Prop} {sql : String}

/-! ## Each on its own -/

theorem runAndCommit_runs (sql : String) (index : Option Int) (link : Link σ) :
    Runs d loose (runAndCommit sql index) link R fun _ new => Sends [sql] new := by
  refine .onFault ((statement_ends sql link).mono ?_)
  rintro new (e | ⟨⟩) link' hx hq
  · obtain ⟨f, outcome, ho, rfl, hnew⟩ := hq
    have hlast : ∃ before c, new = before ++ [⟨c, outcome⟩] ∧ Clean before ∧ (∀ event ∈ new, event.call.isWork = true) ∧
        Server.Faults link.server before c f ∧ d.Tells f c (.statement sql f.driverMessage index) := by
      obtain ⟨rfl, hf⟩ | ⟨rfl, hf⟩ := hnew
      · exact ⟨[], .exec sql, rfl, List.forall_mem_nil _, List.forall_mem_singleton.mpr rfl, hf, .exec⟩
      · refine ⟨[executed sql], .commit, rfl, clean_executed [sql], ?_, hf, .commit⟩
        exact List.forall_mem_cons.mpr ⟨rfl, List.forall_mem_singleton.mpr rfl⟩
    obtain ⟨before, c, rfl, hc, hw, hf, ht⟩ := hlast
    refine ⟨fun f' he _ => ?_, fun hk => ⟨hw, .inl (.last hc ho hf (.raw fun hd => ?_))⟩⟩
    · cases he
      refine .bind ((rollbackQuietly_ends link').mono ?_)
      have hwork : ∀ back, ∀ event ∈ before ++ [⟨c, outcome⟩] ++ [⟨.rollback, back⟩], event.call.isWork = true :=
        fun back => List.forall_mem_append.mpr ⟨hw, List.forall_mem_singleton.mpr rfl⟩
      rintro _ _ link'' _ ⟨back, rfl, rfl | ⟨f', rfl, hd⟩⟩
      · refine .throw ?_
        rw [List.append_nil]
        exact ⟨hwork back, .inl (.rolledBack hc ho hf (.words ht))⟩
      · exact ⟨hwork back, .inl (.rolledBack hc ho hf (.raw fun h => hd (h.later hx)))⟩
    · exact Bool.false_ne_true ((hk f rfl).symm.trans (hd.faults hf))
  · subst hq
    refine ⟨fun _ h => (nomatch h), fun _ => ⟨?_, ?_, committed_executed [sql], rfl⟩⟩
    · exact List.forall_mem_cons.mpr ⟨rfl, List.forall_mem_singleton.mpr rfl⟩
    · exact (clean_executed [sql]).append (.cons .nil)

theorem execute_runs (sql : String) (link : Link σ) :
    Runs d loose (execute sql) link R fun _ new => Sends [sql] new := by
  refine (runAndCommit_runs sql none link).bind ?_
  intro _ new link' _ hs
  refine .note ?_
  rwa [List.append_nil]

theorem executeEachFrom_runs (index : Nat) (statements : List String) (link : Link σ) :
    Runs d loose (executeEachFrom index statements) link R fun _ new => Sends statements new := by
  induction statements generalizing index link R with
  | nil => exact .pure rfl
  | cons sql statements ih =>
      refine (runAndCommit_runs sql (some index) link).bind ?_
      intro _ new link' _ hs
      exact (ih (index + 1) link').mono fun _ more hm => hs.append hm

theorem executeEach_runs (statements : List String) (link : Link σ) :
    Runs d loose (executeEach statements) link R fun _ new => Sends statements new := by
  refine (executeEachFrom_runs 0 statements link).bind ?_
  intro _ new link' _ hs
  refine .note ?_
  rwa [List.append_nil]

/-! ## All in one transaction -/

theorem isWork_settling (open? : Bool) : ∀ event ∈ settling open?, event.call.isWork = true := by
  cases open? with
  | false => exact List.forall_mem_nil _
  | true => exact List.forall_mem_singleton.mpr rfl

theorem isWork_executed (statements : List String) : ∀ event ∈ statements.map executed, event.call.isWork = true := by
  intro event he
  obtain ⟨sql, -, rfl⟩ := List.mem_map.mp he
  rfl

theorem clean_opening (open? : Bool) : Clean (settling open? ++ [⟨.start, .done⟩]) :=
  (clean_settling open?).append (.cons .nil)

section Rollback

variable {index : Nat} {f' : Fault} (hf : Server.Faults s before (.exec sql) f)

include hf

theorem told_of_rollback :
    Told d s (.exec sql) f (retold transactionFailed (retold (statementFailed sql index) (.fault f))) := by
  by_cases hdriver : Server.FailsAsDriver s
  · have hk := hdriver.faults hf
    rw [retold_of_isDriver hk]
    exact .words .exec
  · exact .other hdriver (unrejected_retold (fun _ => .statement _ _ _)
      (unrejected_retold (fun _ => .statement _ _ _) (.fault f)))

/-- The statement's fault is told even if rolling back fails too. -/
theorem told_of_lostRollback (hd : Server.FailsAsDriver s → f'.kind.isDriver = true) :
    Told d s (.exec sql) f (retold transactionFailed
      (afterLostRollback (retold (statementFailed sql index) (.fault f)) (.fault f'))) := by
  by_cases hdriver : Server.FailsAsDriver s
  · have hk := hdriver.faults hf
    rw [retold_of_isDriver hk, statementFailed, afterLostRollback, if_pos (hd hdriver)]
    exact .words .exec
  · exact .other hdriver (unrejected_retold (fun _ => .statement _ _ _)
      (unrejected_afterLostRollback (unrejected_retold (fun _ => .statement _ _ _) (.fault f)) f'))

end Rollback

theorem transaction_runs (statements : List String) (link : Link σ) :
    Runs d loose (onFault FaultKind.isDriver (openTransaction >>= fun _ => inTransaction (sendFrom 0 statements))
      fun f => throw (transactionFailed f)) link R fun _ new => Sends statements new := by
  refine .retold (.bind ((openTransaction_ends link).mono ?_))
  rintro new (e | ⟨⟩) link₁ hx hq
  · obtain ⟨f, outcome, ho, rfl, ⟨-, rfl, hf⟩ | ⟨rfl, hf⟩⟩ := hq
    · exact ⟨List.forall_mem_singleton.mpr rfl, .inl (.first ho hf (.retold hf .commit))⟩
    · refine ⟨?_, .inl (.last (clean_settling _) ho hf (.retold hf .start))⟩
      exact List.forall_mem_append.mpr ⟨isWork_settling _, List.forall_mem_singleton.mpr rfl⟩
  · have hclean : Clean new := hq ▸ clean_opening _
    have hnone : sent new = [] := by simp [hq]
    have hwork : ∀ (passed : List String) (rest : List Event), (∀ event ∈ rest, event.call.isWork = true) →
        ∀ event ∈ new ++ (passed.map executed ++ rest), event.call.isWork = true := by
      intro passed rest hrest
      rw [hq]
      refine List.forall_mem_append.mpr ⟨?_, List.forall_mem_append.mpr ⟨isWork_executed _, hrest⟩⟩
      exact List.forall_mem_append.mpr ⟨isWork_settling _, List.forall_mem_singleton.mpr rfl⟩
    refine .inTransaction ((sendFrom_ends 0 statements link₁).mono ?_)
    rintro more (e | ⟨⟩) link₂ hm hsent
    · obtain ⟨passed, sql, rest, outcome, f, -, rfl, ho, hf, rfl⟩ := hsent
      refine (abandon_ends _ link₂).mono ?_
      have hrolled : ∀ back, ∀ event ∈ new ++ (passed.map executed ++ [⟨.exec sql, outcome⟩] ++ [⟨.rollback, back⟩]),
          event.call.isWork = true := by
        intro back
        rw [List.append_assoc (passed.map executed)]
        exact hwork passed _ (List.forall_mem_cons.mpr ⟨rfl, List.forall_mem_singleton.mpr rfl⟩)
      rintro _ _ link₃ _ ⟨back, rfl, ⟨-, rfl⟩ | ⟨f', hd, rfl⟩⟩
      · refine ⟨hrolled back, .inl ?_⟩
        exact .later (.rolledBack (clean_executed _) ho hf (told_of_rollback hf)) hclean hx
      · refine ⟨hrolled back, .inl ?_⟩
        exact .later (.rolledBack (clean_executed _) ho hf (told_of_lostRollback hf fun h => hd (h.later hm))) hclean hx
    · subst hsent
      refine .perform ?_ ?_
      · intro link₃ _
        refine ⟨hwork statements _ (List.forall_mem_singleton.mpr rfl), ?_, ?_, by simp [Sends, hnone]⟩
        · exact hclean.append ((clean_executed _).append (.cons .nil))
        · exact (committed_of_sent hnone).append (committed_executed statements)
      · intro f outcome link₃ hf ho _
        refine ⟨hwork statements _ (List.forall_mem_singleton.mpr rfl), .inl ?_⟩
        have hfault := hm.faults hf
        exact .later (.last (clean_executed _) ho hfault (.retold hfault .commit)) hclean hx

theorem executeTogether_runs (statements : List String) (link : Link σ) :
    Runs d loose (executeTogether statements) link R fun _ new => Sends statements new := by
  refine (transaction_runs statements link).bind ?_
  intro _ new link' _ hs
  refine .note ?_
  rwa [List.append_nil]

theorem executeBatch_runs (statements : List String) (together : Bool) (link : Link σ) :
    Runs d loose (executeBatch statements together) link R fun _ new => Sends statements new := by
  unfold executeBatch
  split
  · rename_i hn
    rw [List.isEmpty_iff.mp hn]
    exact .pure rfl
  · split
    · exact executeTogether_runs statements link
    · exact executeEach_runs statements link

end SinkKeeper.Task
