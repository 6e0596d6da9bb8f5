import SinkKeeper.Proofs.Addresses
import SinkKeeper.Proofs.Sessions

/-!
# What reports tell

Over a server that fails as drivers do, an operation on a sink reports: a failed report tells the first call that
failed, whatever fails after it. Only the faults of making the engine, closing the connection and disposing of the
engine are not told; they leave as they are, in place of a result or of an error.
-/

namespace SinkKeeper

/-- The calls whose faults are not told in other words. -/
def Call.isUntold : Call → Bool
  | .createEngine .. | .close | .dispose => true
  | .connect | .query .. | .exec _ | .start | .commit | .rollback => false

theorem Call.not_isUntold {c : Call} (h : c.isWork = true) : c.isUntold = false := by
  cases c <;> first | rfl | cases h

namespace Task

variable {σ : Type} [Server σ] {d : Dialect} {server : σ} {new : List Event} {e : Failure}

theorem Halts.words (h : Halts d server new e) (hd : Server.FailsAsDriver server) :
    ∃ before c outcome after f x, new = before ++ ⟨c, outcome⟩ :: after ∧ Clean before ∧ outcome ≠ .done ∧
      Server.Faults server before c f ∧ e = .sink x ∧ d.Tells f c x := by
  cases h with
  | failed clean failed fault back told =>
      cases told with
      | words ht => exact ⟨_, _, _, _, _, _, rfl, clean, failed, fault, rfl, ht⟩
      | other hn _ => exact absurd hd hn

end Task

namespace Sink

variable {σ : Type} [Server σ] {s : Sink} {server : σ} {new before after : List Event} {e : SinkError}

/-- An address that is not had is refused, unless the port has too many digits. -/
theorem address_fails (s : Sink) : Fails Unaddressed s.address := by
  unfold Sink.address
  split
  · exact .error (.invalid rfl)
  · exact (parseAddress_fails _ _).bind fun _ _ => .ok

/-! ## What is told -/

/-- What a sink tells of a driver's fault, by the call that met it. -/
inductive Tells (s : Sink) (f : Fault) : Call → SinkError → Prop
  | connect {a : Address} (ha : s.address = .ok a) : Tells s f .connect (connectFailed s.dialect a.redacted f)
  | work {c : Call} {e : SinkError} (h : s.dialect.Tells f c e) : Tells s f c e

/-- A report, by the calls that were made for it: it tells the first that failed. If none failed, something was
refused, or there was no handle to work with, or the report is one of success. -/
inductive Accounts (s : Sink) (server : σ) : List Event → Report → Prop
  | told {before after : List Event} {c : Call} {outcome : Outcome} {f : Fault} {e : SinkError}
      (clean : Task.Clean before) (failed : outcome ≠ .done) (fault : Server.Faults server before c f)
      (told : s.Tells f c e) : Accounts s server (before ++ ⟨c, outcome⟩ :: after) (.failed e)
  | refused {new : List Event} {e : SinkError} (clean : Task.Clean new) (h : e.Invalid) :
      Accounts s server new (.failed e)
  | unusable {new : List Event} {a : Address} (clean : Task.Clean new) (ha : s.address = .ok a) :
      Accounts s server new (.failed (handleMissing s.dialect a.redacted))
  | done {new : List Event} {report : Report} (clean : Task.Clean new) (h : report.success = true) :
      Accounts s server new report

/-- A fault that leaves as it is: one of the calls whose faults are not told. -/
inductive Escapes (server : σ) : List Event → Fault → Prop
  | intro {before after : List Event} {c : Call} {outcome : Outcome} {f : Fault} (hc : c.isUntold = true)
      (failed : outcome ≠ .done) (fault : Server.Faults server before c f) :
      Escapes server (before ++ ⟨c, outcome⟩ :: after) f

/-- Every call whose faults are not told was done. -/
def Settled (new : List Event) : Prop := ∀ event ∈ new, event.call.isUntold = true → event.outcome = .done

theorem Settled.append {more : List Event} (hn : Settled new) (hm : Settled more) : Settled (new ++ more) :=
  List.forall_mem_append.mpr ⟨hn, hm⟩

theorem settled_of_clean (h : Task.Clean new) : Settled new := fun event he _ => (h event he).1

theorem settled_of_isWork (h : ∀ event ∈ new, event.call.isWork = true) : Settled new :=
  fun event he hu => absurd (hu.symm.trans (Call.not_isUntold (h event he))) (by decide)

/-- What comes of an operation: a report that accounts for its calls, or a fault that is not told. -/
def Results (s : Sink) (server : σ) (new : List Event) : Except Failure Report → Prop
  | .ok report => Settled new ∧ s.Accounts server new report
  | .error e => ∃ f, e = .fault f ∧ Escapes server new f

/-- A cleanup that fails takes the place of what came before it. -/
theorem Results.finished (before : List Event) {c : Call} {outcome : Outcome} {raised : Option Fault}
    {r : Except Failure Report} (hc : c.isUntold = true) (hs : Server.Settles server before c outcome raised)
    (h : raised = none → outcome = .done → s.Results server (before ++ ⟨c, outcome⟩ :: after) (Task.reported r)) :
    s.Results server (before ++ ⟨c, outcome⟩ :: after) (Task.reported (Task.finished r raised)) := by
  cases hs with
  | done => exact h rfl rfl
  | failed ho hf => exact ⟨_, rfl, .intro hc ho hf⟩

theorem unmade_of_isDriver {a : Address} {f : Fault} (h : f.kind.isDriver = true) : s.unmade a f = .fault f := by
  rw [Sink.unmade, FaultKind.isMissing_of_isDriver h]
  rfl

theorem unconnected_of_isDriver {a : Address} {f : Fault} (h : f.kind.isDriver = true) :
    s.unconnected a f = connectFailed s.dialect a.redacted f := by
  rw [Sink.unconnected, FaultKind.isMissing_of_isDriver h]
  rfl

theorem settled_done {c : Call} : Settled [⟨c, .done⟩] := List.forall_mem_singleton.mpr fun _ => rfl

/-- Over a connection that is closed and disposed of, the work is accounted for. -/
theorem Body.results {op : Operation} {opening body : List Event} {r : Except Failure Report}
    (h : Body server s.dialect False op opening body r) (hopening : Task.Clean opening)
    (hd : Server.FailsAsDriver server) :
    s.Results server (opening ++ body ++ [⟨.close, .done⟩, ⟨.dispose, .done⟩]) (Task.reported r) := by
  obtain ⟨hw, hr⟩ := h
  have hsettled : Settled (opening ++ body ++ [⟨.close, .done⟩, ⟨.dispose, .done⟩]) := by
    refine ((settled_of_clean hopening).append (settled_of_isWork hw)).append ?_
    exact List.forall_mem_cons.mpr ⟨fun _ => rfl, settled_done⟩
  have hclean : Task.Clean body → Task.Clean (opening ++ body ++ [⟨.close, .done⟩, ⟨.dispose, .done⟩]) := by
    intro hbody
    exact (hopening.append hbody).append (.cons (.cons .nil))
  cases r with
  | ok report => exact ⟨hsettled, .done (hclean hr.1) (by rw [Report.success, hr.2.2.1]; rfl)⟩
  | error e =>
      obtain hhalts | ⟨hbody, href⟩ := hr
      · obtain ⟨before, c, outcome, after, f, x, hnew, hc, ho, hf, rfl, ht⟩ := hhalts.words hd
        refine ⟨hsettled, ?_⟩
        rw [hnew, List.append_assoc]
        exact .told hc ho hf (.work ht)
      · cases href with
        | invalid hx _ => exact ⟨hsettled, .refused (hclean hbody) hx⟩
        | shape hloose => exact hloose.elim

theorem Session.results {op : Operation} {r : Except Failure Report}
    (h : s.Session server (Body server s.dialect False op) new r) (hd : Server.FailsAsDriver server)
    (hp : ∀ digits, s.address ≠ .error (.shape (.numeralTooLong digits))) : s.Results server new (Task.reported r) := by
  cases h with
  | refused ha =>
      cases address_fails s _ ha with
      | invalid hx => exact ⟨List.forall_mem_nil _, .refused .nil hx⟩
      | tooLong => exact absurd ha (hp _)
  | @unmade a options outcome f ha failed fault =>
      rw [unmade_of_isDriver (hd.faults fault)]
      have hescapes : Escapes server ([] ++ ⟨(s.made a options).call, outcome⟩ :: []) f := .intro rfl failed fault
      exact ⟨f, rfl, hescapes⟩
  | @unconnected a options outcome settled f raised ha failed fault hs =>
      refine Results.finished [s.made a options, ⟨.connect, outcome⟩] rfl hs ?_
      rintro - rfl
      rw [unconnected_of_isDriver (hd.faults fault)]
      -- Of the three calls the second is the one that failed, and the last one was done.
      have hmade : Task.Clean [s.made a options] := .cons .nil
      have haccounts : s.Accounts server ([s.made a options] ++ ⟨.connect, outcome⟩ :: [⟨.dispose, .done⟩])
          (.failed (connectFailed s.dialect a.redacted f)) := .told hmade failed fault (.connect ha)
      refine ⟨?_, haccounts⟩
      exact List.forall_mem_cons.mpr ⟨fun _ => rfl, List.forall_mem_cons.mpr ⟨fun hu => (nomatch hu), settled_done⟩⟩
  | @unusable a options settled raised ha hh hs =>
      refine Results.finished (s.opening a options) rfl hs ?_
      rintro - rfl
      have hdisposed : Task.Clean [⟨.dispose, .done⟩] := .cons .nil
      have hclean := (clean_opening s a options).append hdisposed
      exact ⟨settled_of_clean hclean, .unusable hclean ha⟩
  | @used a options body r closed settled left raised ha hh hq hc hs =>
      refine Results.finished _ rfl hs ?_
      rintro - rfl
      rw [List.append_assoc]
      refine Results.finished _ rfl hc ?_
      rintro - rfl
      exact hq.results (clean_opening s a options) hd

/-! ## What an operation reports -/

/-- Over a server that fails as drivers do and gives regular rows, an operation reports, and its report accounts for
its calls, unless a call whose faults are not told fails: then the fault of such a call leaves. -/
theorem run_reports (s : Sink) (env : Environment) (op : Operation) (link : Link σ)
    (hd : Server.FailsAsDriver link.server) (ht : Server.Tabular s.dialect link.server) (ho : op.Typed)
    (hp : ∀ digits, s.address ≠ .error (.shape (.numeralTooLong digits))) :
    Task.Ends (s.run env op) link fun new r _ =>
      match r with
      | .ok report => (∀ event ∈ new, event.call.isUntold = true → event.outcome = .done) ∧
          s.Accounts link.server new report
      | .error e => ∃ f, e = .fault f ∧ Escapes link.server new f := by
  refine (run_session False (.inr ho) (.inr ht)).mono ?_
  rintro new _ _ - ⟨r, rfl, hsession⟩
  have hresults := hsession.results hd hp
  generalize Task.reported r = result at hresults ⊢
  cases result with
  | ok report => exact hresults
  | error e => exact hresults

/-- A script in which every statement times out, and then a call of the given kind loses the connection. -/
def losing (kind : CallKind) : Script :=
  { Script.empty with
    breakages := [⟨.exec, none, none, .plain .timeout "timed out"⟩,
      ⟨kind, none, none, .plain .reset "connection lost"⟩] }

theorem losing_failsAsDriver (kind : CallKind) : Server.FailsAsDriver (losing kind) :=
  Script.failsAsDriver (by simp [losing, Fault.plain, FaultKind.isDriver]) (List.forall_mem_nil _)

theorem losing_tabular (kind : CallKind) : Server.Tabular .mysql (losing kind) :=
  Script.tabular (List.forall_mem_nil _)

/-- A statement that timed out is told, though rolling back fails too. -/
theorem run_reports_timeout : Server.FailsAsDriver (losing .rollback) ∧ Server.Tabular .mysql (losing .rollback) ∧
    (Operation.createDatabase (.string "db")).Typed ∧
    (∀ digits, localSink.address ≠ .error (.shape (.numeralTooLong digits))) ∧
    ∃ link', localSink.run ⟨[]⟩ (.createDatabase (.string "db")) (.fresh (losing .rollback))
        = .ok (.failed (.statement "CREATE DATABASE IF NOT EXISTS `db`" "timed out" none)) link' ∧
      localSink.Accounts (losing .rollback) link'.events
        (.failed (.statement "CREATE DATABASE IF NOT EXISTS `db`" "timed out" none)) := by
  have hp : ∀ digits, localSink.address ≠ .error (.shape (.numeralTooLong digits)) := by
    intro digits he
    obtain ⟨a, ha⟩ := localSink_address
    cases ha.symm.trans he
  have hrun : localSink.run ⟨[]⟩ (.createDatabase (.string "db")) (.fresh (losing .rollback))
      = .ok (.failed (.statement "CREATE DATABASE IF NOT EXISTS `db`" "timed out" none)) _ := rfl
  obtain ⟨new, hx, -, haccounts⟩ := (run_reports localSink ⟨[]⟩ (.createDatabase (.string "db"))
    (.fresh (losing .rollback)) (losing_failsAsDriver _) (losing_tabular _) trivial hp).of_ok hrun
  refine ⟨losing_failsAsDriver _, losing_tabular _, trivial, hp, _, hrun, ?_⟩
  rw [hx.events]
  exact haccounts

/-- A statement times out and closing the connection fails too: nothing is reported, and what leaves is the fault of
the close. -/
theorem run_raises_of_lost_close : Server.FailsAsDriver (losing .close) ∧ Server.Tabular .mysql (losing .close) ∧
    ∃ link', localSink.run ⟨[]⟩ (.createDatabase (.string "db")) (.fresh (losing .close))
        = .error (.fault (.plain .reset "connection lost")) link' ∧
      Task.sent link'.events = [("CREATE DATABASE IF NOT EXISTS `db`", .broken)] :=
  ⟨losing_failsAsDriver _, losing_tabular _, _, rfl, rfl⟩

end Sink

end SinkKeeper
