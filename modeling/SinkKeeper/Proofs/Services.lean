import SinkKeeper.CommandLine.Ensure
import SinkKeeper.Proofs.Fronts
import SinkKeeper.Proofs.Ends

/-!
# What services do

The application and the command reach servers by operations on sinks, and in no other way. What holds of every event
of such operations holds of every event of a run of visits and of every event of the command.
-/

namespace SinkKeeper

variable {σ α β : Type}

/-! ## Serving -/

namespace Web.Serving

/-- What serving ends with and what it leaves are as `Q` tells. -/
def Ends (work : Serving σ α) (b : Backends σ) (Q : Except Failure α → Backends σ → Prop) : Prop :=
  Q (settled (work b)).1 (settled (work b)).2

variable {b : Backends σ} {work : Serving σ α} {Q : Except Failure α → Backends σ → Prop}

theorem Ends.pure {a : α} (h : Q (.ok a) b) : Ends (pure a : Serving σ α) b Q := h

theorem Ends.throw {e : Failure} (h : Q (.error e) b) : Ends (throw e : Serving σ α) b Q := h

theorem Ends.lift {x : Except Failure α} (h : Q x b) : Ends (liftM x : Serving σ α) b Q := by
  cases x <;> exact h

theorem Ends.bind {next : α → Serving σ β} {Q : Except Failure β → Backends σ → Prop}
    (h : Ends work b fun r after =>
      match r with
      | .ok a => Ends (next a) after Q
      | .error e => Q (.error e) after) : Ends (work >>= next) b Q := by
  unfold Ends at h ⊢
  simp only [Bind.bind, EStateM.bind]
  cases hw : work b <;> simpa only [hw, settled] using h

theorem Ends.mono {Q' : Except Failure α → Backends σ → Prop} (h : Ends work b Q)
    (hq : ∀ r after, Q r after → Q' r after) :
    Ends work b Q' := hq _ _ h

theorem Ends.onSink [Server σ] {work : Task σ α} (h : Task.Ends work b.link fun _ r link => Q r { b with link }) :
    Ends (onSink work) b Q := by
  obtain ⟨new, r, link, hrun, -, hq⟩ := h
  unfold Ends Web.onSink
  rw [hrun]
  cases r <;> exact hq

theorem Ends.onMasters {work : Topic.Exchange α} (h : ∀ r wire, Q r { b with wire }) : Ends (onMasters work) b Q := by
  rw [Ends, settled_onMasters]
  exact h _ _

/-- A response is sent or not, and that changes nothing. -/
theorem sent_ends {work : Serving σ Response} {I : Backends σ → Prop} (h : Ends work b fun _ after => I after) :
    Ends (work >>= fun response => liftM response.sent) b fun _ after => I after := by
  refine .bind (h.mono fun result after hafter => ?_)
  cases result with
  | error _ => exact hafter
  | ok response => exact .lift hafter

end Web.Serving

/-! ## Events of services -/

section Events

variable [Server σ] {P : Event → Prop}
  (hsinks : ∀ (s : Sink) (env : Environment) (op : Operation) (link : Link σ),
    Task.Ends (s.run env op) link fun new _ _ => ∀ event ∈ new, P event)
include hsinks

namespace Web

theorem serveSink_events (env : Environment) (engine : String) (task : SinkTask) (form : Json.Fields) {b : Backends σ}
    (hb : ∀ event ∈ b.link.events, P event) :
    Serving.Ends (serveSink env engine task form) b fun _ after => ∀ event ∈ after.link.events, P event := by
  unfold serveSink
  split
  · split
    · split
      · exact .pure hb
      · exact .throw hb
    · refine .bind (.onSink ((hsinks _ _ _ _).mono ?_))
      intro new r link hx hnew
      have hafter : ∀ event ∈ link.events, P event := by
        rw [hx.events]
        exact List.forall_mem_append.mpr ⟨hb, hnew⟩
      cases r <;> exact hafter
  · exact .pure hb
  · exact .throw hb

theorem App.serve_events (app : App) (r : Request) (e : Endpoint) {b : Backends σ}
    (hb : ∀ event ∈ b.link.events, P event) :
    Serving.Ends (app.serve r e) b fun _ after => ∀ event ∈ after.link.events, P event := by
  unfold App.serve
  split
  · split
    · exact .pure hb
    · split
      · exact .pure hb
      · refine .bind (.lift ?_)
        split
        · split
          · exact .pure hb
          · exact serveSink_events hsinks _ _ _ _ hb
        · exact hb
  · split
    · exact .pure hb
    · split
      · exact .pure hb
      · exact .onMasters fun _ _ => hb

theorem App.answer_events (app : App) (r : Request) {b : Backends σ} (hb : ∀ event ∈ b.link.events, P event) :
    Serving.Ends (app.answer r) b fun _ after => ∀ event ∈ after.link.events, P event := by
  unfold App.answer
  dsimp only
  cases route r with
  | error refusal =>
      have hrefusal : Serving.Ends (pure refusal) b fun _ after => ∀ event ∈ after.link.events, P event := .pure hb
      exact Serving.sent_ends hrefusal
  | ok e => exact Serving.sent_ends (app.serve_events hsinks r e hb)

theorem Site.visit_events (s : Site σ) (v : Visit) (hs : ∀ event ∈ s.backends.link.events, P event) :
    ∀ event ∈ (s.visit v).after.backends.link.events, P event := by
  cases v with
  | app app r =>
      have hanswer := app.answer_events hsinks r hs
      rw [Serving.Ends] at hanswer
      rw [visit, leave]
      generalize app.answer r s.backends = result at hanswer ⊢
      cases result <;> exact hanswer
  | onDemand change r e =>
      -- The front end on demand knows masters, and no sinks.
      rw [visit, leave]
      generalize ((s.changed change).answer r e).2 s.backends.wire = result
      cases result <;> exact hs

theorem Site.visits_events (s : Site σ) (run : List Visit) (hs : ∀ event ∈ s.backends.link.events, P event) :
    ∀ record ∈ s.visits run, ∀ event ∈ record.after.backends.link.events, P event := by
  induction run generalizing s with
  | nil => exact fun record hmem => absurd hmem List.not_mem_nil
  | cons v rest ih =>
      have hvisit := s.visit_events hsinks v hs
      exact List.forall_mem_cons.mpr ⟨hvisit, ih _ hvisit⟩

end Web

namespace CommandLine

theorem ensureAll_events (sink : Sink) (env : Environment) (tables : List Table) (link : Link σ) :
    Task.Ends (ensureAll sink env tables) link fun new _ _ => ∀ event ∈ new, P event := by
  induction tables generalizing link with
  | nil => exact .pure (List.forall_mem_nil _)
  | cons t rest ih =>
      refine .bind ((hsinks _ _ _ _).mono fun new r link' _ hnew => ?_)
      cases r with
      | error e => exact hnew
      | ok report =>
          refine .bind ((ih link').mono fun more r link'' _ hmore => ?_)
          have hboth : ∀ event ∈ new ++ more, P event := List.forall_mem_append.mpr ⟨hnew, hmore⟩
          cases r with
          | error e => exact hboth
          | ok reports => exact .pure (by rwa [List.append_nil])

theorem run_events (s : Surroundings) (words : List String) (link : Link σ) :
    Task.Ends (run s words) link fun new _ _ => ∀ event ∈ new, P event := by
  unfold run
  split
  · exact .pure (List.forall_mem_nil _)
  · have hload : Task.Ends (loadEnvironment s) link fun new _ _ => new = [] := by
      unfold loadEnvironment
      cases s.load with
      | ok _ loading => exact ⟨[], .ok loading.environment, _, rfl, .refl rfl rfl rfl, rfl⟩
      | error e loading => exact ⟨[], .error e, _, rfl, .refl rfl rfl rfl, rfl⟩
    refine .bind (hload.mono ?_)
    rintro _ r link' - rfl
    cases r with
    | error e => exact List.forall_mem_nil _
    | ok env =>
        unfold ensure
        dsimp only
        split
        · split
          · exact .pure (List.forall_mem_nil _)
          · exact .throw (List.forall_mem_nil _)
        · refine .bind ((ensureAll_events hsinks _ _ _ _).mono fun new r link'' _ hnew => ?_)
          cases r with
          | error e => exact hnew
          | ok reports => exact .pure (by simpa using hnew)

end CommandLine

end Events

end SinkKeeper
