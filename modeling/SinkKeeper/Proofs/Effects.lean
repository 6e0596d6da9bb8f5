import SinkKeeper.Proofs.Sessions

/-!
# What took effect

The statements that a report of success tells are the statements that took effect: they were sent in this order, all
of them were done, and each was committed. Those of a table that is ensured are the statements of its stages, and
columns are added to it just if it was not made.
-/

namespace SinkKeeper

variable {σ α β : Type} {link link' : Link σ}

namespace Task

theorem bind_eq_ok {work : Task σ α} {next : α → Task σ β} {b : β} :
    (work >>= next) link = .ok b link' ↔ ∃ a link₁, work link = .ok a link₁ ∧ next a link₁ = .ok b link' := by
  cases h : work link with
  | ok a link₁ => simp [Bind.bind, EStateM.bind, h]
  | error e link₁ => simp [Bind.bind, EStateM.bind, h]

theorem pure_eq_ok {a b : α} : (pure a : Task σ α) link = .ok b link' ↔ a = b ∧ link = link' := by
  simp [Pure.pure, EStateM.pure]

variable [Server σ] {d : Dialect} {t : Table} {report : Report} {new more : List Event}

/-- A report of success: its statements, and no others, were sent in their order; all were done and committed. -/
structure Took (report : Report) (new : List Event) : Prop where
  success : report.success = true
  sends : sent new = report.executed.map fun sql => (sql, .done)
  committed : Committed new

/-- The stages in which a table was ensured, from the links between them. -/
inductive Staged (d : Dialect) (t : Table) (link link' : Link σ) (report : Report) : Prop
  | made {home table : Report} {link₁ link₂ : Link σ} {stage : List Event} {sql : String} {found : List Column}
      (hhome : createDatabase d t.database link = .ok home link₁) (htable : createTable d t link₁ = .ok table link₂)
      (hstage : link₁.Extends stage link₂) (hsql : d.createTable t = .ok sql) (hsent : sent stage = [(sql, .done)])
      (hfound : columns d t.database t.name link₂ = .ok found link')
      (hexecuted : report.executed = home.executed ++ table.executed)
  | grown {home table added : Report} {link₁ link₂ link₃ : Link σ} {stage : List Event} {found : List Column}
      (hhome : createDatabase d t.database link = .ok home link₁) (htable : createTable d t link₁ = .ok table link₂)
      (hstage : link₁.Extends stage link₂) (hsent : sent stage = [])
      (hadded : addColumns d t link₂ = .ok added link₃)
      (hfound : columns d t.database t.name link₃ = .ok found link')
      (hexecuted : report.executed = home.executed ++ table.executed ++ added.executed)

theorem staged_of_ensureTable (h : ensureTable d t link = .ok report link') : Staged d t link link' report := by
  obtain ⟨home, link₁, hhome, h⟩ := bind_eq_ok.mp h
  obtain ⟨table, link₂, htable, h⟩ := bind_eq_ok.mp h
  have hruns : Runs d True (createTable d t) link₁ (fun new => sent new = []) _ :=
    createTable_runs (.inl trivial) (.inl trivial) fun _ => sent_of_asks
  obtain ⟨stage, hstage, -, -, -, ⟨-, hsent⟩, -, hcase⟩ := Ends.of_ok hruns htable
  obtain hnone | ⟨sql, hsql, hone⟩ := hcase
  · rw [hnone] at hsent h
    obtain ⟨added, link₃, hadded, h⟩ := bind_eq_ok.mp h
    obtain ⟨_, _, hpure, h⟩ := bind_eq_ok.mp h
    obtain ⟨rfl, rfl⟩ := pure_eq_ok.mp hpure
    obtain ⟨found, link₄, hfound, h⟩ := bind_eq_ok.mp h
    obtain ⟨rfl, rfl⟩ := pure_eq_ok.mp h
    exact .grown hhome htable hstage hsent hadded hfound (by rw [hnone])
  · rw [hone] at hsent h
    obtain ⟨_, _, hpure, h⟩ := bind_eq_ok.mp h
    obtain ⟨rfl, rfl⟩ := pure_eq_ok.mp hpure
    obtain ⟨found, link₄, hfound, h⟩ := bind_eq_ok.mp h
    obtain ⟨rfl, rfl⟩ := pure_eq_ok.mp h
    refine .made hhome htable hstage hsql hsent hfound ?_
    rw [hone]
    exact List.append_nil _

theorem Took.of_tallies (h : Tallies report new) (hc : Committed new) : Took report new :=
  ⟨by rw [Report.success, h.1]; rfl, h.2, hc⟩

theorem Took.between {before after : List Event} (h : Took report new) (hb : sent before = []) (ha : sent after = []) :
    Took report (before ++ new ++ after) where
  success := h.success
  sends := by rw [sent_append, sent_append, hb, ha, h.sends, List.nil_append, List.append_nil]
  committed := ((committed_of_sent hb).append h.committed).append (committed_of_sent ha)

theorem run_took (op : Operation) (d : Dialect) (link : Link σ) :
    Ends (op.run d) link fun new r link' => ∀ report, r = .ok report →
      Took report new ∧ ∀ t, op = .ensureTable t → Staged d t link link' report := by
  have hruns : Runs d True (op.run d) link _ _ := op.run_runs (.inl trivial) (.inl trivial)
  obtain ⟨new, r, link', he, hx, -, hr⟩ := hruns
  refine ⟨new, r, link', he, hx, ?_⟩
  rintro report rfl
  refine ⟨.of_tallies hr.2.2 hr.2.1, ?_⟩
  rintro t rfl
  exact staged_of_ensureTable he

/-! ## Over a connection of its own -/

theorem reported_eq_ok {r : Except Failure Report} (h : reported r = .ok report) (hs : report.success = true) :
    r = .ok report := by
  cases r with
  | ok report => exact h
  | error e =>
      cases e with
      | sink e =>
          cases h
          cases hs
      | _ => cases h

end Task

variable [Server σ]

theorem Sink.Session.took {s : Sink} {server : σ} {op : Operation} {loose : Prop} {new : List Event} {report : Report}
    (h : s.Session server (Body server s.dialect loose op) new (.ok report)) : Task.Took report new := by
  obtain ⟨address, options, body, closed, settled, ⟨-, -, hcommitted, htallies⟩, rfl⟩ := h.used_of_ok
  rw [List.append_assoc]
  exact (Task.Took.of_tallies htallies hcommitted).between rfl rfl

/-- A report of success tells the statements that took effect, of an operation over any connection and of one that
a sink does over a connection of its own. -/
theorem Operation.reports_effects (op : Operation) (link : Link σ) :
    (∀ d, Task.Ends (op.run d) link fun new r link' => ∀ report, r = .ok report →
        Task.Took report new ∧ ∀ t, op = .ensureTable t → Task.Staged d t link link' report) ∧
      ∀ (s : Sink) (env : Environment), Task.Ends (s.run env op) link fun new r _ =>
        ∀ report, r = .ok report → report.success = true → Task.Took report new := by
  refine ⟨fun d => Task.run_took op d link, fun s env => ?_⟩
  refine (Sink.run_session True (.inl trivial) (.inl trivial)).mono ?_
  rintro new _ _ - ⟨r, rfl, hsession⟩ report hreport hs
  rw [Task.reported_eq_ok hreport hs] at hsession
  exact hsession.took

end SinkKeeper
