import SinkKeeper.Proofs.Convergence
import SinkKeeper.Proofs.Effects

/-!
# What a rejection leaves

An operation that rejects what it was given has made queries only, and one that reports a rejection has sent no
statement, but for one case: ensuring a table makes its database first, if that is missing, and only then looks at the
rest of the table.
-/

namespace SinkKeeper

variable {σ : Type} [Server σ]

namespace Task

variable {d : Dialect} {server : σ} {database : Json} {new : List Event}

/-- What cleans up afterwards changes nothing of what was left. -/
theorem Prepares.released {closed settled : Outcome} (h : Prepares d server database new) :
    Prepares d server database (new ++ [⟨.close, closed⟩, ⟨.dispose, settled⟩]) := by
  cases new with
  | nil => exact .inr ⟨fun hm => (nomatch hm.1), rfl⟩
  | cons e new => exact h.append (List.cons_ne_nil _ _) rfl

end Task

/-! ## Over a connection -/

/-- However late an operation rejects what it was given, up to then it has made queries only, unless it is one that
ensures a table: no statement was sent and no transaction was begun, committed or rolled back. -/
theorem Operation.run_rejected_asks (d : Dialect) (op : Operation) (hop : ∀ t, op ≠ .ensureTable t) (link : Link σ) :
    Task.Ends (op.run d) link fun new r _ => ∀ e, r = .error (.sink e) → e.Invalid → Task.Asks new := by
  have hruns : Task.Runs d True (op.run d) link Task.Asks Task.Tallies :=
    op.run_early hop (.inl trivial) (.inl trivial) fun _ hasks => hasks
  refine Task.Ends.mono hruns ?_
  rintro new _ _ - ⟨-, hr⟩ e rfl he
  obtain hhalts | ⟨-, hrefusal⟩ := hr
  · exact absurd he (hhalts.unrejected e rfl)
  · cases hrefusal with
    | invalid _ hasks => exact hasks

/-- Three columns are looked for and none is there; only then the type of the last one is rejected. -/
theorem Operation.run_rejected_asks_late :
    ∃ e link', (Operation.addColumns (Task.plainTable [.plain "a" "INT", .plain "b" "INT", .plain "c" "INT;"])).run
        .clickhouse (.fresh Script.empty) = .error (.sink e) link' ∧
      e.Invalid ∧ link'.events.length = 3 ∧ Task.Asks link'.events := by
  have hrun : (Operation.addColumns (Task.plainTable [.plain "a" "INT", .plain "b" "INT", .plain "c" "INT;"])).run
      .clickhouse (.fresh Script.empty) = .error (.sink _) _ := rfl
  obtain ⟨new, hx, hasks⟩ := (Operation.run_rejected_asks .clickhouse (.addColumns _) (fun _ h => nomatch h)
    (.fresh Script.empty)).of_error hrun
  refine ⟨_, _, hrun, rfl, rfl, ?_⟩
  rw [hx.events]
  exact hasks _ rfl rfl

/-! ## Over a session -/

namespace Sink

variable {s : Sink} {server : σ} {new : List Event} {report : Report} {e : SinkError}

theorem unmade_unrejected {a : Address} {f : Fault} : (s.unmade a f).Unrejected := by
  unfold Sink.unmade
  split
  · intro x hx
    cases hx
    exact fun h => nomatch h
  · exact .fault f

theorem unconnected_not_invalid {a : Address} {f : Fault} : ¬(s.unconnected a f).Invalid := by
  unfold Sink.unconnected
  split
  · exact fun h => nomatch h
  · exact fun h => nomatch h

/-- A rejection is reported before a connection is made, or over one by the operation. -/
theorem Session.rejected {op : Operation} {loose : Prop}
    (h : s.Session server (Body server s.dialect loose op) new (.error (.sink e))) (he : e.Invalid) :
    new = [] ∨ ∃ a options body closed settled,
      new = s.opening a options ++ (body ++ [⟨.close, closed⟩, ⟨.dispose, settled⟩]) ∧
        op.Leaves s.dialect (Server.after server ((s.opening a options).map Event.call)) body := by
  have hn : ∀ f, (.error (.sink e) : Except Failure Report) ≠ .error (.fault f) := fun _ h => nomatch h
  generalize hr : (.error (.sink e) : Except Failure Report) = r at h
  cases h with
  | refused _ => exact .inl rfl
  | unmade _ _ _ => exact absurd he (unmade_unrejected e (Except.error.inj hr).symm)
  | unconnected _ _ _ _ =>
      cases Task.finished_eq hr.symm hn
      exact absurd he unconnected_not_invalid
  | unusable _ _ _ =>
      cases Task.finished_eq hr.symm hn
      cases he
  | @used a options body _ closed settled _ _ _ _ hq _ _ =>
      cases Task.finished_eq (Task.finished_eq hr.symm hn) hn
      obtain ⟨-, hhalts | ⟨-, href⟩⟩ := hq
      · exact absurd he (hhalts.unrejected e rfl)
      · cases href with
        | invalid _ hleaves =>
            refine .inr ⟨a, options, body, closed, settled, ?_, hleaves⟩
            rw [List.append_assoc, List.append_assoc]
            rfl

theorem run_rejected {env : Environment} {op : Operation} {link : Link σ} :
    Task.Ends (s.run env op) link fun new r _ => ∀ report e, r = .ok report → report.failure = some e → e.Invalid →
      new = [] ∨ ∃ a options body closed settled,
        new = s.opening a options ++ (body ++ [⟨.close, closed⟩, ⟨.dispose, settled⟩]) ∧
          op.Leaves s.dialect (Server.after link.server ((s.opening a options).map Event.call)) body := by
  refine (run_session True (.inl trivial) (.inl trivial)).mono ?_
  rintro new _ _ - ⟨r, rfl, hsession⟩ report e hreport hfailure he
  cases r with
  | ok report' =>
      cases hreport
      have hsuccess := hsession.took.success
      rw [Report.success, hfailure] at hsuccess
      cases hsuccess
  | error x =>
      cases x with
      | sink x =>
          cases hreport
          cases hfailure
          exact hsession.rejected he
      | _ => cases hreport

/-- An operation that does not ensure a table leaves nothing behind. -/
theorem run_rejected_untouched {env : Environment} {op : Operation} {link : Link σ}
    (hop : ∀ t, op ≠ .ensureTable t) :
    Task.Ends (s.run env op) link fun new r _ => ∀ report e, r = .ok report → report.failure = some e → e.Invalid →
      Task.sent new = [] := by
  refine run_rejected.mono ?_
  intro new r _ _ h report e hreport hfailure he
  obtain rfl | ⟨a, options, body, closed, settled, rfl, hleaves⟩ := h report e hreport hfailure he
  · rfl
  · have hbody : Task.sent body = [] := by
      cases op with
      | ensureTable t => exact absurd rfl (hop t)
      | _ => exact hleaves
    rw [Task.sent_append, Task.sent_append, hbody]
    rfl

/-- The first query over the connection asked for a database, and the answer was that it is not there. -/
def FindsMissing (s : Sink) (server : σ) (database : Json) (new : List Event) : Prop :=
  Task.Misses s.dialect (Server.after server ((new.take 2).map Event.call)) database (new.drop 2)

/-- Ensuring a table leaves nothing behind either, unless its database was missing: then that was made. -/
theorem ensureTable_rejected (s : Sink) (env : Environment) (t : Table) (link : Link σ) :
    Task.Ends (s.run env (.ensureTable t)) link fun new r _ =>
      ∀ report e, r = .ok report → report.failure = some e → e.Invalid →
        (s.FindsMissing link.server t.database new ∧
          ∃ sql, s.dialect.createDatabase t.database = .ok sql ∧ Task.sent new = [(sql, .done)]) ∨
        (¬s.FindsMissing link.server t.database new ∧ Task.sent new = []) := by
  refine run_rejected.mono ?_
  intro new r _ _ h report e hreport hfailure he
  obtain rfl | ⟨a, options, body, closed, settled, rfl, hleaves⟩ := h report e hreport hfailure he
  · exact .inr ⟨fun hm => (nomatch hm.1), rfl⟩
  · exact Task.Prepares.released hleaves

/-- A column whose type is rejected, in a database that is not there: the database is made nonetheless. -/
theorem ensureTable_makes_database_of_rejected :
    ∃ e link', localSink.run ⟨[]⟩ (.ensureTable (Task.plainTable [.plain "a" "INT;"])) (.fresh Script.empty)
        = .ok (.failed e) link' ∧
      e.Invalid ∧ Task.sent link'.events = [("CREATE DATABASE IF NOT EXISTS `db`", .done)] :=
  ⟨_, _, rfl, rfl, rfl⟩

end Sink

end SinkKeeper
