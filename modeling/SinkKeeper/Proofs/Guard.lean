import SinkKeeper.Server.Script
import SinkKeeper.Web.OnDemand

/-!
# Who is served

Whoever does not show the token that is configured is not served: no master is asked, no sink is called, and no
answer tells success. This holds for the application and for the front end on demand, however often its setup failed
before, and whatever happened to the variables in the meantime.
-/

namespace SinkKeeper.Web

variable {σ : Type} {r : Request}

/-! ## Refusals -/

theorem configuredToken?_eq {env : Environment} {token : String} (h : configuredToken? env = some token) :
    env.get? tokenVariable = some token := by
  unfold configuredToken? at h
  split at h
  · cases h
  · cases h
  · next hget =>
    cases h
    exact hget

theorem gate_refuses {env : Environment}
    (h : tokenMatches (r.header? "authorization") (env.get? tokenVariable) = false) :
    ∃ refusal, gate env r = some refusal ∧ refusal.isSuccess = false := by
  unfold gate
  split
  · exact ⟨_, rfl, rfl⟩
  · next token htoken =>
    rw [configuredToken?_eq htoken] at h
    rw [if_neg (by rw [h]; decide)]
    exact ⟨_, rfl, rfl⟩

theorem gate_eq_some {env : Environment} {refusal : Response} (h : gate env r = some refusal) :
    ∃ status ∈ [401, 503], ∃ detail ∈ ["Unauthorized", "Server configuration error: API_AUTH_TOKEN not set"],
      refusal = .refusal status (.string detail) := by
  unfold gate at h
  split at h
  · cases h
    exact ⟨503, by decide, _, by decide, rfl⟩
  · split at h
    · cases h
    · cases h
      exact ⟨401, by decide, _, by decide, rfl⟩

theorem refusal_of_gate {env : Environment} {refusal : Response} (h : gate env r = some refusal) :
    refusal.isSuccess = false := by
  have hfailed : ∀ status ∈ [401, 503], (200 ≤ status && status < 300) = false := by decide
  obtain ⟨status, hstatus, detail, -, rfl⟩ := gate_eq_some h
  exact hfailed status hstatus

theorem route_refuses {refusal : Response} (h : route r = .error refusal) : refusal.isSuccess = false := by
  unfold route at h
  split at h
  · cases h
    rfl
  · split at h
    · cases h
    · cases h
      rfl

theorem readBody_eq_error [Runtime] {refusal : Response} (h : readBody r = .error refusal) :
    refusal = unreadableBody ∨ ∃ offset, refusal = malformedBody offset := by
  unfold readBody at h
  split at h
  · cases h
  split at h
  · cases h
  split at h
  · cases h
    exact .inl rfl
  · split at h
    · cases h
    · split at h
      · cases h
        exact .inr ⟨_, rfl⟩
      · cases h
        exact .inl rfl

theorem readBody_refuses {refusal : Response} (h : readBody r = .error refusal) : refusal.isSuccess = false := by
  obtain rfl | ⟨offset, rfl⟩ := readBody_eq_error h <;> rfl

/-- A response is sent as it is, or not at all. -/
theorem Response.eq_of_sent [Runtime] {response after : Response} (h : response.sent = .ok after) :
    after = response := by
  unfold Response.sent at h
  split at h <;> cases h
  rfl

theorem sent_of_served [Runtime] {work : Serving σ Response} {response : Response} {b : Backends σ}
    (h : work b = .ok response b) : (work >>= fun response => liftM response.sent : Serving σ Response) b =
      (liftM response.sent : Serving σ Response) b := by
  change EStateM.bind work _ b = _
  rw [EStateM.bind, h]

section Application

variable [Server σ] {app : App}
  (h : tokenMatches (r.header? "authorization") (app.environment.get? tokenVariable) = false)
include h

/-- Without the token, an endpoint refuses before it does anything else. -/
theorem App.serve_refuses (e : Endpoint) (b : Backends σ) :
    ∃ refusal, app.serve r e b = .ok refusal b ∧ refusal.isSuccess = false := by
  obtain ⟨refusal, hgate, hrefusal⟩ := gate_refuses h
  unfold App.serve
  cases e with
  -- A sink's body is read before the token is looked at, and may be refused on its own.
  | sink engine task =>
      cases hbody : readBody r with
      | error complaint => exact ⟨complaint, rfl, readBody_refuses hbody⟩
      | ok body =>
          dsimp only
          rw [hgate]
          exact ⟨refusal, rfl, hrefusal⟩
  | topic | consumerAuth | topicConfig =>
      dsimp only
      rw [hgate]
      exact ⟨refusal, rfl, hrefusal⟩

theorem App.answer_refuses (b : Backends σ) :
    ∃ refusal : Response, refusal.isSuccess = false ∧
      app.answer r b = (liftM refusal.sent : Serving σ Response) b := by
  unfold App.answer
  cases hroute : route r with
  | error refusal => exact ⟨refusal, route_refuses hroute, sent_of_served rfl⟩
  | ok e =>
      obtain ⟨refusal, hserve, hrefusal⟩ := serve_refuses h e b
      exact ⟨refusal, hrefusal, sent_of_served hserve⟩

end Application

/-- A setup that fails is told, and one that does not is followed by the check of the token. -/
theorem OnDemand.answer_refuses (f : OnDemand) (e : Endpoint) (wire : Topic.Wire)
    (h : tokenMatches (r.header? "authorization") (f.setUp.1.surroundings.environment.get? tokenVariable) = false) :
    ∃ response after, (f.answer r e).2 wire = .ok response after ∧ after.requests = wire.requests ∧
      after.replies = wire.replies ∧ response.status ∈ [503, 401] := by
  unfold OnDemand.answer
  dsimp only
  cases f.setUp.2.2 with
  | error failure => exact ⟨_, _, rfl, rfl, rfl, List.mem_cons_self⟩
  | ok m =>
      rw [h]
      exact ⟨_, _, rfl, rfl, rfl, List.mem_cons_of_mem _ List.mem_cons_self⟩

/-! ## Visits -/

/-- A request to the application, which may have other variables than before, or to the front end on demand, whose
surroundings may have changed. -/
inductive Visit
  | app (app : App) (r : Request)
  | onDemand (change : Surroundings → Surroundings) (r : Request) (e : Endpoint)

def Visit.request : Visit → Request
  | .app _ r | .onDemand _ r _ => r

/-- The front end on demand, and what everything is served from. -/
structure Site (σ : Type) where
  front : OnDemand
  backends : Backends σ

/-- What a visit found and left, and the status of its answer. A failure has none. -/
structure Record (σ : Type) where
  visit : Visit
  before : Site σ
  after : Site σ
  status : Option Nat

namespace Site

def changed (s : Site σ) (change : Surroundings → Surroundings) : OnDemand :=
  { s.front with surroundings := change s.front.surroundings }

/-- What is left when something was answered or failed, and the status of the answer. -/
def left {α β : Type} (place : β → Site σ) (status : α → Nat) : EStateM.Result Failure β α → Site σ × Option Nat
  | .ok a b => (place b, some (status a))
  | .error _ b => (place b, none)

def leave [Server σ] (s : Site σ) : Visit → Site σ × Option Nat
  | .app app r => left (fun b => ⟨s.front, b⟩) Response.status (app.answer r s.backends)
  | .onDemand change r e =>
    left (fun wire => ⟨((s.changed change).answer r e).1, s.backends.link, wire⟩) TextResponse.status
      (((s.changed change).answer r e).2 s.backends.wire)

def visit [Server σ] (s : Site σ) (v : Visit) : Record σ := ⟨v, s, (s.leave v).1, (s.leave v).2⟩

/-- The records of visits one after another. -/
def visits [Server σ] (s : Site σ) : List Visit → List (Record σ)
  | [] => []
  | v :: rest => s.visit v :: (s.visit v).after.visits rest

end Site

namespace Record

/-- The token that was configured when the visit was looked at. -/
def token (record : Record σ) : Option String :=
  match record.visit with
  | .app app _ => app.environment.get? tokenVariable
  | .onDemand change _ _ => (record.before.changed change).setUp.1.surroundings.environment.get? tokenVariable

def authorized (record : Record σ) : Bool :=
  tokenMatches (record.visit.request.header? "authorization") record.token

/-- Nothing was sent to a master and nothing to a sink, and the answer tells no success. -/
structure Refused (record : Record σ) : Prop where
  link : record.after.backends.link = record.before.backends.link
  requests : record.after.backends.wire.requests = record.before.backends.wire.requests
  replies : record.after.backends.wire.replies = record.before.backends.wire.replies
  status : ∀ status ∈ record.status, ¬(200 ≤ status ∧ status < 300)

end Record

theorem Response.not_success {response : Response} (h : response.isSuccess = false) :
    ¬(200 ≤ response.status ∧ response.status < 300) := by
  simpa [Response.isSuccess] using h

/-- A visit without the token that is configured is refused. -/
theorem Site.visit_refused [Server σ] (s : Site σ) (v : Visit) (h : (s.visit v).authorized = false) :
    (s.visit v).Refused := by
  cases v with
  | app app r =>
      have htoken : tokenMatches (r.header? "authorization") (app.environment.get? tokenVariable) = false := h
      obtain ⟨refusal, hrefusal, hanswer⟩ := App.answer_refuses htoken s.backends
      have hleave : s.leave (.app app r) = (s, refusal.sent.toOption.map Response.status) := by
        rw [leave, hanswer]
        cases refusal.sent <;> rfl
      unfold visit
      rw [hleave]
      refine ⟨rfl, rfl, rfl, fun status hstatus => ?_⟩
      cases hsent : refusal.sent with
      | error e =>
          rw [hsent] at hstatus
          cases hstatus
      | ok response =>
          rw [hsent] at hstatus
          cases hstatus
          rw [Response.eq_of_sent hsent]
          exact Response.not_success hrefusal
  | onDemand change r e =>
      have htoken : tokenMatches (r.header? "authorization")
          ((s.changed change).setUp.1.surroundings.environment.get? tokenVariable) = false := h
      obtain ⟨response, after, hanswer, hrequests, hreplies, hstatus⟩ :=
        (s.changed change).answer_refuses e s.backends.wire htoken
      have hleave : s.leave (.onDemand change r e) =
          (⟨((s.changed change).answer r e).1, s.backends.link, after⟩, some response.status) := by
        rw [leave, hanswer, left]
      unfold visit
      rw [hleave]
      refine ⟨rfl, hrequests, hreplies, fun status hmem => ?_⟩
      cases hmem
      revert hstatus
      simp only [List.mem_cons, List.not_mem_nil, or_false]
      omega

/-- In every run of visits, the ones without the token that is configured are refused, and these are all of those at a
time when no token is configured or an empty one. -/
theorem Site.visits_guarded [Server σ] (s : Site σ) (run : List Visit) :
    (∀ record ∈ s.visits run, record.authorized = false → record.Refused) ∧
    ∀ record ∈ s.visits run, record.token = none ∨ record.token = some "" → record.authorized = false := by
  constructor
  · induction run generalizing s with
    | nil => exact fun record hmem => absurd hmem List.not_mem_nil
    | cons v rest ih =>
        intro record hmem
        rcases List.mem_cons.mp hmem with rfl | hlater
        · exact s.visit_refused v
        · exact ih _ record hlater
  · rintro record - (htoken | htoken)
    · rw [Record.authorized, htoken]
      cases record.visit.request.header? "authorization" <;> rfl
    · rw [Record.authorized, htoken]
      cases record.visit.request.header? "authorization" <;> rfl

/-- A front end that was told nothing yet, with a master that answers once. -/
def newSite : Site Script where
  front := ⟨⟨⟨[]⟩, ⟨[]⟩, .empty, .ofList []⟩, none⟩
  backends := ⟨.fresh .empty, ⟨[.page "up" 200], [], []⟩⟩

def tokenEnvironment : Environment :=
  .ofList [(tokenVariable, "secret"), (Topic.nodesVariable, "\x7b\x221\x22: \x2210.0.0.7:8080\x22\x7d")]

def showing (token method path : String) : Request :=
  ⟨method, path, [], [("Authorization", "Bearer " ++ token)], []⟩

/-- A visit before there is a token, two after that of which one knows it, and one to a sink. -/
def mixedRun : List Visit :=
  [.onDemand id (showing "secret" "" "") .consumerAuth,
    .onDemand (fun s => { s with environment := tokenEnvironment }) (showing "other" "" "") .consumerAuth,
    .onDemand id (showing "secret" "" "") .consumerAuth,
    .app ⟨tokenEnvironment, none⟩ (showing "" "POST" "/api/sinks/mysql/databases")]

theorem visits_guarded_mixed :
    (newSite.visits mixedRun)[0].token = none ∧ (newSite.visits mixedRun)[0].Refused ∧
      (newSite.visits mixedRun)[1].authorized = false ∧ (newSite.visits mixedRun)[1].Refused ∧
      (newSite.visits mixedRun)[3].authorized = false ∧ (newSite.visits mixedRun)[3].Refused ∧
      (newSite.visits mixedRun).map (·.status) = [some 503, some 401, some 200, some 401] := by
  obtain ⟨hrefused, hunset⟩ := Site.visits_guarded newSite mixedRun
  have hearly : (newSite.visits mixedRun)[0].token = none := by decide +kernel
  have hwrong : (newSite.visits mixedRun)[1].authorized = false := by decide +kernel
  have hlate : (newSite.visits mixedRun)[3].authorized = false := by decide +kernel
  have hstatus : (newSite.visits mixedRun).map (·.status) = [some 503, some 401, some 200, some 401] := by
    decide +kernel
  exact ⟨hearly, hrefused _ (List.getElem_mem _) (hunset _ (List.getElem_mem _) (.inl hearly)), hwrong,
    hrefused _ (List.getElem_mem _) hwrong, hlate, hrefused _ (List.getElem_mem _) hlate, hstatus⟩

end SinkKeeper.Web
