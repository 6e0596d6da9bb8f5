import SinkKeeper.Proofs.Operations
import SinkKeeper.Sink

/-!
# Sessions

An operation on a sink opens a connection, works over it, closes it and disposes of what made it. A session is
everything that may happen on the way, with the result that comes of it.
-/

namespace SinkKeeper

variable {σ α : Type} [Server σ]

/-! ## Cleaning up -/

/-- How a call that cleans up ended after other calls: it was done, or it raised a fault. -/
inductive Server.Settles (s : σ) (before : List Event) (c : Call) : Outcome → Option Fault → Prop
  | done : Settles s before c .done none
  | failed {outcome : Outcome} {f : Fault} (ho : outcome ≠ .done) (hf : Server.Faults s before c f) :
      Settles s before c outcome (some f)

namespace Task

/-- What is left of a result when the cleanup may have raised a fault. -/
def finished (r : Except Failure α) : Option Fault → Except Failure α
  | none => r
  | some f => .error (.fault f)

theorem finished_eq {r r' : Except Failure α} {raised : Option Fault} (h : finished r raised = r')
    (hn : ∀ f, r' ≠ .error (.fault f)) : r = r' := by
  cases raised with
  | none => exact h
  | some f => exact absurd h.symm (hn f)

theorem Ends.andFinally {work : Task σ α} {c : Call} {link : Link σ}
    {Q : List Event → Except Failure α → Link σ → Prop}
    (h : Ends work link fun new r _ => ∀ outcome raised link', Server.Settles link.server new c outcome raised →
      Q (new ++ [⟨c, outcome⟩]) (finished r raised) link') :
    Ends (Task.andFinally work (Task.perform c)) link Q := by
  obtain ⟨new, r, link₁, he, hx, hq⟩ := h
  have hcleanup : Ends (Task.perform c) link₁ fun more back link₂ => ∃ outcome raised,
      more = [⟨c, outcome⟩] ∧ back = finished (.ok ()) raised ∧ Server.Settles link.server new c outcome raised := by
    refine .perform ?_ ?_
    · intro link₂ _
      exact ⟨.done, none, rfl, rfl, .done⟩
    · intro f outcome link₂ hf ho _
      exact ⟨outcome, some f, rfl, rfl, .failed ho (hx.faults hf)⟩
  obtain ⟨_, _, link₂, he₂, hx₂, outcome, raised, rfl, rfl, hs⟩ := hcleanup
  refine ⟨new ++ [⟨c, outcome⟩], finished r raised, link₂, ?_, hx.trans hx₂, hq outcome raised link₂ hs⟩
  cases r <;> cases raised <;> simp [Task.andFinally, he, he₂, ended, finished]

/-! ## Reports -/

/-- A result as it is reported: an error of the sink becomes a failed report. -/
def reported : Except Failure Report → Except Failure Report
  | .error (.sink e) => .ok (.failed e)
  | r => r

theorem Ends.report {description : String} {work : Task σ Report} {link : Link σ}
    {Q : List Event → Except Failure Report → Prop} (h : Ends work link fun new r _ => Q new (reported r)) :
    Ends (Task.report description work) link fun new r _ => Q new r := by
  obtain ⟨new, r, link₁, he, hx, hq⟩ := h
  cases r with
  | ok report => exact ⟨new, .ok report, link₁, by simp [Task.report, he, ended], hx, hq⟩
  | error e =>
      cases e with
      | sink e =>
          have hnote : Ends (Task.note .error (description ++ " failed: " ++ e.message)) link₁ fun more r _ =>
              more = [] ∧ r = .ok () := .note fun _ _ => ⟨rfl, rfl⟩
          obtain ⟨_, _, link₂, he₂, hx₂, rfl, rfl⟩ := hnote
          refine ⟨new ++ [], .ok (.failed e), link₂, ?_, hx.trans hx₂, ?_⟩
          · simp [Task.report, he, he₂, ended, Bind.bind, EStateM.bind, Pure.pure, EStateM.pure]
          · rw [List.append_nil]
            exact hq
      | _ => exact ⟨new, _, link₁, by simp [Task.report, he, ended, reported], hx, hq⟩

end Task

/-! ## Sessions of a sink -/

namespace Sink

variable {s : Sink} {link : Link σ} {server : σ} {Q : List Event → List Event → Except Failure α → Prop}

/-- The event of an engine that was made. -/
def made (s : Sink) (a : Address) (options : EngineOptions) : Event :=
  ⟨.createEngine s.dialect.driver a options, .done⟩

/-- The events of a connection that was had. -/
def opening (s : Sink) (a : Address) (options : EngineOptions) : List Event := [s.made a options, ⟨.connect, .done⟩]

/-- What is told of a fault in making the engine. -/
def unmade (s : Sink) (a : Address) (f : Fault) : Failure :=
  if f.kind.isMissing then .sink (driverMissing s.dialect a.redacted f) else .fault f

/-- What is told of a fault in connecting. -/
def unconnected (s : Sink) (a : Address) (f : Fault) : SinkError :=
  if f.kind.isMissing then driverMissing s.dialect a.redacted f else connectFailed s.dialect a.redacted f

/-- How a sink is opened, worked with and released, and what comes of it. The work after the opening is as `Q`
tells. -/
inductive Session (s : Sink) (server : σ) (Q : List Event → List Event → Except Failure α → Prop) :
    List Event → Except Failure α → Prop
  | refused {e : Failure} (ha : s.address = .error e) : Session s server Q [] (.error e)
  | unmade {a : Address} {options : EngineOptions} {outcome : Outcome} {f : Fault} (ha : s.address = .ok a)
      (failed : outcome ≠ .done) (fault : Server.Faults server [] (s.made a options).call f) :
      Session s server Q [⟨(s.made a options).call, outcome⟩] (.error (s.unmade a f))
  | unconnected {a : Address} {options : EngineOptions} {outcome settled : Outcome} {f : Fault} {raised : Option Fault}
      (ha : s.address = .ok a) (failed : outcome ≠ .done)
      (fault : Server.Faults server [s.made a options] .connect f)
      (hs : Server.Settles server [s.made a options, ⟨.connect, outcome⟩] .dispose settled raised) :
      Session s server Q [s.made a options, ⟨.connect, outcome⟩, ⟨.dispose, settled⟩]
        (Task.finished (.error (.sink (s.unconnected a f))) raised)
  | unusable {a : Address} {options : EngineOptions} {settled : Outcome} {raised : Option Fault}
      (ha : s.address = .ok a)
      (hh : Server.handle (Server.after server ((s.opening a options).map Event.call)) ≠ .usable)
      (hs : Server.Settles server (s.opening a options) .dispose settled raised) :
      Session s server Q (s.opening a options ++ [⟨.dispose, settled⟩])
        (Task.finished (.error (.sink (handleMissing s.dialect a.redacted))) raised)
  | used {a : Address} {options : EngineOptions} {body : List Event} {r : Except Failure α} {closed settled : Outcome}
      {left raised : Option Fault} (ha : s.address = .ok a)
      (hh : Server.handle (Server.after server ((s.opening a options).map Event.call)) = .usable)
      (hq : Q (s.opening a options) body r)
      (hc : Server.Settles server (s.opening a options ++ body) .close closed left)
      (hs : Server.Settles server (s.opening a options ++ body ++ [⟨.close, closed⟩]) .dispose settled raised) :
      Session s server Q (s.opening a options ++ body ++ [⟨.close, closed⟩] ++ [⟨.dispose, settled⟩])
        (Task.finished (Task.finished r left) raised)

/-- A session that gives a result worked over a connection, and closed and released it without a fault. -/
theorem Session.used_of_ok {new : List Event} {a : α} (h : s.Session server Q new (.ok a)) :
    ∃ address options body closed settled, Q (s.opening address options) body (.ok a) ∧
      new = s.opening address options ++ body ++ [⟨.close, closed⟩] ++ [⟨.dispose, settled⟩] := by
  have hn : ∀ f, (.ok a : Except Failure α) ≠ .error (.fault f) := fun _ h => nomatch h
  generalize hr : (.ok a : Except Failure α) = r at h
  cases h with
  | refused _ => cases hr
  | unmade _ _ _ => cases hr
  | unconnected _ _ _ _ => cases Task.finished_eq hr.symm hn
  | unusable _ _ _ => cases Task.finished_eq hr.symm hn
  | used _ _ hq _ _ =>
      rw [Task.finished_eq (Task.finished_eq hr.symm hn) hn] at hq
      refine ⟨_, _, _, _, _, ?_, rfl⟩
      rwa [← hr]

/-! ## The steps of a session -/

theorem limitOr_ends {given : Option Number.Numeral} {read : ReadLimit} :
    Task.Ends (limitOr given read) link fun new r _ => new = [] ∧ ∃ limit, r = .ok limit := by
  cases given with
  | some seconds => exact .pure ⟨rfl, seconds, rfl⟩
  | none => exact ⟨[], .ok (.real read.seconds), _, rfl, .refl rfl rfl rfl, rfl, _, rfl⟩

theorem createEngine_ends (a : Address) (options : EngineOptions) :
    Task.Ends (s.createEngine a options) link fun new r _ =>
      (new = [s.made a options] ∧ r = .ok ()) ∨
        ∃ f outcome, outcome ≠ .done ∧ Server.Faults link.server [] (s.made a options).call f ∧
          new = [⟨(s.made a options).call, outcome⟩] ∧ r = .error (s.unmade a f) := by
  refine .onFault (.perform ?_ ?_)
  · intro link' _
    exact ⟨fun _ h => (nomatch h), fun _ => .inl ⟨rfl, rfl⟩⟩
  · intro f outcome link' hf ho _
    refine ⟨fun f' he hk => ?_, fun hk => .inr ⟨f, outcome, ho, hf, rfl, ?_⟩⟩
    · cases he
      exact .throw (.inr ⟨f, outcome, ho, hf, rfl, by rw [Sink.unmade, if_pos hk]⟩)
    · rw [Sink.unmade, if_neg (by rw [hk f rfl]; exact Bool.false_ne_true)]

theorem connect_ends (a : Address) :
    Task.Ends (s.connect a.redacted) link fun new r _ =>
      (new = [⟨.connect, .done⟩] ∧ r = .ok ()) ∨
        ∃ f outcome, outcome ≠ .done ∧ Server.Faults link.server [] .connect f ∧
          new = [⟨.connect, outcome⟩] ∧ r = .error (.sink (s.unconnected a f)) := by
  refine .onFault (.perform ?_ ?_)
  · intro link' _
    exact ⟨fun _ h => (nomatch h), fun _ => .inl ⟨rfl, rfl⟩⟩
  · intro f outcome link' hf ho _
    refine ⟨fun f' he _ => ?_, fun hk => (nomatch hk f rfl)⟩
    cases he
    split
    · rename_i hk
      exact .throw (.inr ⟨f, outcome, ho, hf, rfl, by rw [Sink.unconnected, if_pos hk]⟩)
    · rename_i hk
      refine .bind (.note fun _ _ => .throw (.inr ⟨f, outcome, ho, hf, rfl, ?_⟩))
      rw [Sink.unconnected, if_neg hk]

theorem requireHandle_ends (a : Address) :
    Task.Ends (s.requireHandle a.redacted) link fun new r _ => new = [] ∧
      (Server.handle link.server = .usable ∧ r = .ok () ∨
        Server.handle link.server ≠ .usable ∧ r = .error (.sink (handleMissing s.dialect a.redacted))) := by
  refine .bind (.get ?_)
  dsimp only
  split
  · rename_i hh
    exact .note fun _ _ => ⟨rfl, .inl ⟨hh, rfl⟩⟩
  · rename_i hh
    exact .throw ⟨rfl, .inr ⟨by simp [hh], rfl⟩⟩
  · rename_i hh
    exact .throw ⟨rfl, .inr ⟨by simp [hh], rfl⟩⟩

/-- The work of a session, from connecting to the close. -/
theorem connected_ends {a : Address} {options : EngineOptions} {work : Task σ α} {link' : Link σ}
    (hx : link.Extends [s.made a options] link')
    (hwork : ∀ link'', link.Extends (s.opening a options) link'' →
      Task.Ends work link'' fun body r _ => Q (s.opening a options) body r) :
    Task.Ends (do
        s.connect a.redacted
        s.requireHandle a.redacted
        Task.andFinally work (Task.perform .close)) link' fun new r _ =>
      ∀ settled raised, Server.Settles link.server ([s.made a options] ++ new) .dispose settled raised →
        s.address = .ok a → s.Session link.server Q ([s.made a options] ++ new ++ [⟨.dispose, settled⟩])
          (Task.finished r raised) := by
  refine .bind ((connect_ends a).mono ?_)
  rintro _ _ link₂ hx₂ (⟨rfl, rfl⟩ | ⟨f, outcome, ho, hf, rfl, rfl⟩)
  · have hopened : link.Extends (s.opening a options) link₂ := hx.trans hx₂
    refine .bind ((requireHandle_ends a).mono ?_)
    rintro _ _ link₃ hx₃ ⟨rfl, ⟨hh, rfl⟩ | ⟨hh, rfl⟩⟩
    · have hready : link.Extends (s.opening a options) link₃ := hopened.trans hx₃
      -- The close comes after the work however that ended, so nothing is asked of the result of the work.
      refine .andFinally ((hwork link₃ hready).mono ?_)
      intro body r link₄ _ hq closed left link₅ hc settled raised hs ha
      have hclosed : Server.Settles link.server (s.opening a options ++ body) .close closed left := by
        cases hc with
        | done => exact .done
        | failed ho hf => exact .failed ho (hf.later hready)
      have hevents : [s.made a options] ++ ([⟨.connect, .done⟩] ++ ([] ++ (body ++ [⟨.close, closed⟩])))
          = s.opening a options ++ body ++ [⟨.close, closed⟩] := by simp [Sink.opening]
      rw [hevents] at hs ⊢
      exact .used ha (by rw [← hopened.server]; exact hh) hq hclosed hs
    · intro settled raised hs ha
      exact .unusable ha (by rw [← hopened.server]; exact hh) hs
  · intro settled raised hs ha
    exact .unconnected ha ho (hf.later hx) hs

theorem withConnection_ends {env : Environment} {work : Task σ α}
    (hwork : ∀ a options link', link.Extends (s.opening a options) link' →
      Task.Ends work link' fun body r _ => Q (s.opening a options) body r) :
    Task.Ends (s.withConnection env work) link fun new r _ => s.Session link.server Q new r := by
  unfold withConnection
  cases ha : s.address with
  | error e => exact .bind (.throw (.refused ha))
  | ok a =>
      refine .bind (.pure (.bind (limitOr_ends.mono ?_)))
      rintro _ _ link₁ hx₁ ⟨rfl, connectLimit, rfl⟩
      refine .bind (limitOr_ends.mono ?_)
      rintro _ _ link₂ hx₂ ⟨rfl, statementLimit, rfl⟩
      have hstart : link.Extends [] link₂ := hx₁.trans hx₂
      refine .bind ((createEngine_ends a _).mono ?_)
      rintro _ _ link₃ hx₃ (⟨rfl, rfl⟩ | ⟨f, outcome, ho, hf, rfl, rfl⟩)
      · have hmade := hstart.trans hx₃
        refine .andFinally ((connected_ends hmade (hwork a _)).mono ?_)
        intro new r link₄ _ hsession settled raised link₅ hs
        refine hsession settled raised ?_ ha
        cases hs with
        | done => exact .done
        | failed ho hf => exact .failed ho (hf.later hmade)
      · exact .unmade ha ho (hf.later hstart)

/-! ## What an operation does over a connection -/

/-- What happens over a connection between the opening and the close. -/
def Body (server : σ) (d : Dialect) (loose : Prop) (op : Operation) (opening body : List Event)
    (r : Except Failure Report) : Prop :=
  (∀ event ∈ body, event.call.isWork = true) ∧
    match r with
    | .ok report => Task.Clean body ∧ Task.Committed body ∧ Task.Tallies report body
    | .error e => Task.Halts d server (opening ++ body) e ∨
        Task.Clean body ∧
          Refusal loose (op.Leaves d (Server.after server (opening.map Event.call)) body) e

theorem clean_opening (s : Sink) (a : Address) (options : EngineOptions) : Task.Clean (s.opening a options) :=
  .cons (.cons .nil)

theorem run_session (loose : Prop) {env : Environment} {op : Operation} (ht : loose ∨ op.Typed)
    (hs : loose ∨ Server.Tabular s.dialect link.server) :
    Task.Ends (s.run env op) link fun new r _ => ∃ r', r = Task.reported r' ∧
      s.Session link.server (Body link.server s.dialect loose op) new r' := by
  refine .report ((withConnection_ends ?_).mono fun new r _ _ hsession => ⟨r, rfl, hsession⟩)
  intro a options link' hx
  refine Task.Ends.mono (op.run_runs ht (hs.imp_right (·.later hx))) ?_
  rintro body (e | report) link'' - ⟨hw, hr⟩
  · refine ⟨hw, hr.imp (fun hh => hh.later (clean_opening s a options) hx) ?_⟩
    rw [← hx.server]
    exact id
  · exact ⟨hw, hr⟩

/-! ## A sink to try -/

def localSink : Sink := ⟨.mysql, "jdbc:mysql://localhost:3306", "root", none, none, none⟩

theorem localSink_address : ∃ a, localSink.address = .ok a := ⟨_, rfl⟩

end Sink

end SinkKeeper
