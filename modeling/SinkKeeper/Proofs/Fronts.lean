import SinkKeeper.Proofs.Exchanges
import SinkKeeper.Proofs.Guard

/-!
# Two fronts

The topic endpoints are served twice: by the application and by the front end on demand. Where both run in the same
surroundings, they answer the same requests alike and ask the masters the same. They differ in what they make of a
verdict that is not written as it is: with data that strict readers do not know, or with halves of pairs, which have no
bytes. The application fails there, the front end sends it.
-/

namespace SinkKeeper.Topic

variable {α β : Type} {m : Masters}

/-! ## Exchanges that replies determine -/

/-- On the same replies the work always sends the same requests and ends in the same way. -/
def Exchange.Determined (work : Exchange α) : Prop := ∀ replies, ∃ sent r, Exchange.Gives work replies sent r

open Exchange (Determined Gives)

namespace Exchange.Determined

variable {work : Exchange α}

theorem pure {a : α} : Determined (pure a) := fun _ => ⟨_, _, .pure⟩

theorem throw {e : Failure} : Determined (throw e : Exchange α) := fun _ => ⟨_, _, .throw⟩

theorem lift {x : Except Failure α} : Determined (liftM x : Exchange α) := fun _ => ⟨_, _, .lift⟩

theorem liftShape {x : Except ShapeError α} : Determined (liftM x : Exchange α) := fun _ => ⟨_, _, .liftShape⟩

theorem note {level : Level} {text : String} : Determined (Exchange.note level text) := fun _ => ⟨_, _, .note⟩

theorem attempt (h : Determined work) : Determined (Exchange.attempt work) := fun replies =>
  (h replies).imp fun _ ⟨_, hgives⟩ => ⟨_, hgives.attempt⟩

theorem bind {next : α → Exchange β} (h : Determined work) (hnext : ∀ a, Determined (next a)) :
    Determined (work >>= next) := by
  intro replies
  obtain ⟨sent, r, hwork⟩ := h replies
  cases r with
  | ok a =>
      obtain ⟨more, out, hmore⟩ := hnext a (replies.drop sent.length)
      exact ⟨_, _, hwork.bind hmore⟩
  | error e => exact ⟨_, _, hwork.bind_error⟩

end Exchange.Determined

variable [Runtime]

theorem Masters.ask_determined (fields : Json.Fields) : Determined (m.ask fields) := by
  intro replies
  rcases m.asked_or fields with ⟨address, haddress, hcarried⟩ | ⟨reason, hlost⟩ | hbalks
  · exact ⟨_, _, ask_gives haddress hcarried⟩
  · exact ⟨_, _, ask_lost (queryUrl_of_error hlost)⟩
  · exact ⟨_, _, ask_lost hbalks.queryUrl⟩

theorem Masters.relay_determined (fields : Json.Fields) : Determined (m.relay fields) := by
  refine (ask_determined fields).attempt.bind fun outcome => ?_
  cases outcome with
  | ok answer => exact fun _ => ⟨_, _, verdictOf_gives answer⟩
  | error reason => exact .pure

theorem canWrite_determined (topic : String) (cluster : Json) : Determined (canWrite m topic cluster) := by
  refine (Masters.ask_determined _).attempt.bind fun outcome => ?_
  cases outcome with
  | error reason => exact .pure
  | ok answer =>
      refine Determined.liftShape.bind fun brokers => ?_
      split
      · exact .pure
      · exact Determined.liftShape.bind fun accepted => Determined.note.bind fun _ => .pure

theorem Cloning.addTargets_determined (c : Cloning) (settings : Json.Fields) (targets : List Json) :
    Determined (c.addTargets m settings targets) := by
  induction targets with
  | nil => exact .pure
  | cons target rest ih =>
      refine (Masters.relay_determined _).bind fun verdict => ?_
      split
      · exact Determined.note.bind fun _ => ih
      · exact Determined.note.bind fun _ => .pure

theorem Cloning.run_determined (c : Cloning) : Determined (c.run m) := by
  refine (Masters.ask_determined _).attempt.bind fun outcome => ?_
  cases outcome with
  | error reason => exact .pure
  | ok answer =>
      refine Determined.liftShape.bind fun brokers => ?_
      cases brokers with
      | nil => exact .pure
      | cons broker rest => exact c.addTargets_determined _ _

theorem Method.run_determined (request : Json.Fields) (method : Method) : Determined (method.run m request) := by
  cases method with
  | clone =>
      simp only [Method.run, askClone]
      split
      · exact Cloning.run_determined _
      · exact .pure
  | queryCanWrite =>
      simp only [Method.run, askCanWrite]
      split
      · split
        · exact .pure
        · exact canWrite_determined _ _
      · exact .pure
  | _ => exact Masters.relay_determined _

theorem dispatch_determined (m : Masters) (method body : Option String) : Determined (dispatch m method body) := by
  refine Determined.note.bind fun _ => Determined.note.bind fun _ => ?_
  split
  · exact Determined.note.bind fun _ => .pure
  · split
    · exact Method.run_determined _ _
    · exact .pure
    · split
      · exact Determined.note.bind fun _ => .pure
      · exact .throw

theorem passOn_determined (m : Masters) (fields : Json.Fields) : Determined (passOn m fields) := by
  have hasked : Determined (do
      let url ← m.queryUrl fields
      m.fetch url) := Determined.lift.bind fun url _ => ⟨_, _, Masters.fetch_gives url⟩
  refine hasked.attempt.bind fun outcome => ?_
  cases outcome <;> exact .pure

end SinkKeeper.Topic

namespace SinkKeeper.Web

open SinkKeeper.Topic (Masters Verdict Wire)
open SinkKeeper.Topic.Exchange (Gives)

variable {σ : Type} {m : Masters} {r : Request} {e : Endpoint}

/-! ## Requests to both -/

/-- A request to one of the endpoints for topics. -/
structure TopicRequest where
  request : Request
  endpoint : Endpoint
  found : endpoint? request.path = some endpoint
  method : endpoint.method = request.method
  topic : endpoint ∈ [.topic, .consumerAuth, .topicConfig]

theorem TopicRequest.route_eq (r : TopicRequest) : route r.request = .ok r.endpoint := by
  rw [route, r.found]
  exact if_pos r.method

/-- The two fronts, each with its own way to the masters. -/
structure Fronts (σ : Type) where
  app : App
  backends : Backends σ
  front : OnDemand
  wire : Wire

/-- What work ended with, and what it left. -/
def settled {α β : Type} : EStateM.Result Failure β α → Except Failure α × β
  | .ok a b => (.ok a, b)
  | .error e b => (.error e, b)

@[simp] theorem settled_ended {α : Type} (outcome : Except Failure α) (wire : Wire) :
    settled (Topic.Exchange.ended outcome wire) = (outcome, wire) := by
  cases outcome <;> rfl

theorem settled_onMasters {α : Type} (work : Topic.Exchange α) (b : Backends σ) :
    settled (onMasters work b) = ((settled (work b.wire)).1, { b with wire := (settled (work b.wire)).2 }) := by
  unfold onMasters
  cases work b.wire <;> rfl

/-! ## Answers -/

theorem isFinite_verdict (verdict : Verdict) : verdict.toJson.isFinite = verdict.data.isFinite := by
  simp [Verdict.toJson, Json.int, Json.isFinite, Json.areFieldsFinite]

section Both

variable [Runtime]

/-- What the two make of one request: a document or a text with the same status, or the same failure. Only a verdict
with data that strict readers do not know, or one with halves of pairs, fails in the application and is sent by the
front end. -/
inductive Alike : Except Failure Response → Except Failure TextResponse → Prop
  | document {status : Nat} {j : Json} (finite : j.isFinite = true) (encodable : j.isEncodable = true) :
      Alike (.ok ⟨status, .document j⟩) (.ok (.ofJson status j))
  | passed {text : String} (encodable : Text.isEncodable text = true) :
      Alike (.ok ⟨200, .passed text⟩) (.ok ⟨200, text⟩)
  | failed {e : Failure} : Alike (.error e) (.error e)
  | endless {verdict : Verdict} (endless : verdict.data.isFinite = false) :
      Alike (.error (.shape .unwritable)) (.ok (.ofJson 200 verdict.toJson))
  | halved {verdict : Verdict} (finite : verdict.data.isFinite = true)
      (halved : Text.isEncodable verdict.text = false ∨ verdict.data.isEncodable = false) :
      Alike (.error (.shape .unencodable)) (.ok (.ofJson 200 verdict.toJson))

/-- A refusal shows one text beside a name that has bytes. -/
theorem isEncodable_refusal {detail : String} (status : Nat) (h : Text.isEncodable detail = true) :
    (Response.refusal status (.string detail)).isEncodable = true := by
  have hname : Text.isEncodable "detail" = true := Text.Printable.isEncodable (by decide +kernel)
  simp [Response.refusal, Response.isEncodable, Json.isEncodable, Json.areFieldsEncodable, hname, h]

theorem isEncodable_verdict (verdict : Verdict) :
    verdict.toJson.isEncodable = (Text.isEncodable verdict.text && verdict.data.isEncodable) := by
  have hnames : ∀ name ∈ ["errCode", "errMsg", "result", "data"], Text.isEncodable name = true := by
    have hprintable : ∀ name ∈ ["errCode", "errMsg", "result", "data"], Text.Printable name := by decide +kernel
    exact fun name hname => (hprintable name hname).isEncodable
  simp only [List.forall_mem_cons] at hnames
  obtain ⟨hcode, htext, hresult, hdata, -⟩ := hnames
  simp [Verdict.toJson, Json.int, Json.isEncodable, Json.areFieldsEncodable, hcode, htext, hresult, hdata]

/-- A verdict is told alike by the two unless it holds what cannot be written. -/
theorem alike_verdict (verdict : Verdict) :
    Alike (Response.sent ⟨200, .document verdict.toJson⟩) (.ok (.ofJson 200 verdict.toJson)) := by
  have hfinite : Response.isFinite ⟨200, .document verdict.toJson⟩ = verdict.data.isFinite := isFinite_verdict verdict
  cases hdata : verdict.data.isFinite with
  | false =>
      rw [Response.sent_of_endless (hfinite.trans hdata)]
      exact .endless hdata
  | true =>
      cases hencodable : verdict.toJson.isEncodable with
      | true =>
          rw [Response.sent_of_writable (hfinite.trans hdata) hencodable]
          exact .document ((isFinite_verdict verdict).trans hdata) hencodable
      | false =>
          rw [Response.sent_of_halved (hfinite.trans hdata) hencodable]
          rw [isEncodable_verdict, Bool.and_eq_false_iff] at hencodable
          exact .halved hdata hencodable

/-- What the front end makes of a text that is passed on. -/
def toldText (text : String) : Except Failure TextResponse :=
  if Text.isEncodable text then .ok ⟨200, text⟩ else .error (.shape .unencodable)

theorem alike_passed (text : String) : Alike (Response.sent ⟨200, .passed text⟩) (toldText text) := by
  have hfinite : Response.isFinite ⟨200, .passed text⟩ = true := rfl
  have hshown : Response.isEncodable ⟨200, .passed text⟩ = Text.isEncodable text := rfl
  unfold toldText
  split
  next hencodable =>
    rw [Response.sent_of_writable hfinite (hshown.trans hencodable)]
    exact .passed hencodable
  next hhalved =>
    rw [Response.sent_of_halved hfinite (hshown.trans (Bool.eq_false_iff.mpr hhalved))]
    exact .failed

/-- Whoever shows the token is served alike: on the same replies the two send the same requests. -/
theorem serve_alike (m : Masters) (r : Request) (htopic : e ∈ [.topic, .consumerAuth, .topicConfig])
    (replies : List Topic.Reply) : ∃ sent response text, Gives (serveTopic m r e) replies sent response ∧
      Gives (OnDemand.serve m r e) replies sent text ∧ Alike (response >>= Response.sent) text := by
  have hpassed : ∃ sent response text,
      Gives (do return ⟨200, .passed (← Topic.passOn m r.fields)⟩) replies sent response ∧
      Gives (do
        let text ← Topic.passOn m r.fields
        if Text.isEncodable text then return ⟨200, text⟩ else throw (.shape .unencodable)) replies sent text ∧
      Alike (response >>= Response.sent) text := by
    obtain ⟨sent, outcome, hgives⟩ := Topic.passOn_determined m r.fields replies
    have htext : Gives (do
        let text ← Topic.passOn m r.fields
        if Text.isEncodable text then return ⟨200, text⟩ else throw (.shape .unencodable)) replies sent
          (outcome >>= toldText) := by
      refine hgives.andThen fun text => ?_
      unfold toldText
      split
      · exact .pure
      · exact .throw
    refine ⟨sent, _, _, hgives.andThen fun _ => .pure, htext, ?_⟩
    cases outcome with
    | ok text => exact alike_passed text
    | error e => exact .failed
  cases e with
  | sink engine task => simp at htopic
  | consumerAuth | topicConfig => exact hpassed
  | topic =>
      obtain ⟨sent, outcome, hgives⟩ := Topic.dispatch_determined m (r.param? "method")
        (some (String.ofList (Text.Utf8.decodeReplacing r.body))) replies
      refine ⟨sent, _, _, hgives.andThen fun _ => .pure, hgives.andThen fun _ => .pure, ?_⟩
      cases outcome with
      | ok verdict => exact alike_verdict verdict
      | error e => exact .failed

/-! ## Setting up -/

theorem App.configure_eq (hint : String) (loading : Loading) : App.configure hint loading =
    if (configuredToken? loading.environment).isNone then .error (App.tokenNotSet hint) loading
    else
      match Masters.ofEnvironment loading.environment with
      | .error e => .error e loading
      | .ok (m, notes) => .ok m { loading with notes := loading.notes ++ notes } := by
  have hget : (EStateM.get : Load Loading) loading = .ok loading loading := rfl
  unfold App.configure
  simp only [Bind.bind, EStateM.bind, get, getThe, MonadStateOf.get, hget]
  split
  · rfl
  · cases Masters.ofEnvironment loading.environment <;> rfl

/-- What is configured does not depend on the hint, and needs a token. -/
theorem App.configure_ok {hint : String} {loading after : Loading} (h : App.configure hint loading = .ok m after) :
    after.environment = loading.environment ∧ (configuredToken? loading.environment).isSome ∧
      ∀ other, App.configure other loading = .ok m after := by
  rw [App.configure_eq] at h
  split at h
  · cases h
  · next htoken =>
    refine ⟨?_, ?_, fun other => ?_⟩
    · split at h <;> cases h
      rfl
    · simpa [Option.isSome_iff_ne_none] using htoken
    · rw [App.configure_eq, if_neg htoken]
      exact h

/-- The next request finds the front end set up, or sets it up, with the masters and the environment. -/
structure OnDemand.Ready (f : OnDemand) (m : Masters) (env : Environment) : Prop where
  outcome : f.setUp.2.2 = .ok m
  masters : f.setUp.1.masters = some m
  environment : f.setUp.1.surroundings.environment = env

theorem OnDemand.Ready.kept {f : OnDemand} {env : Environment} (h : f.Ready m env) : f.setUp.1.Ready m env := by
  have hsame : f.setUp.1.setUp = (f.setUp.1, [], .ok m) := by
    rw [setUp, h.masters]
  refine ⟨?_, ?_, ?_⟩ <;> rw [hsame]
  · exact h.masters
  · exact h.environment

/-- Surroundings that configure the application: it starts in them. -/
structure Configured where
  surroundings : Surroundings
  app : App
  loading : Loading
  started : App.start surroundings = .ok app loading

/-- The front end on demand sets itself up with what the application was started with. -/
theorem Configured.ready (c : Configured) : ∃ m, c.app.masters = some m ∧
    (configuredToken? c.app.environment).isSome ∧ OnDemand.Ready ⟨c.surroundings, none⟩ m c.app.environment := by
  obtain ⟨s, app, loading, hstart⟩ := c
  cases hload : Load.fromAll s.vault s.settingsFile ⟨s.environment, none, [], []⟩ with
  | error e after =>
      simp only [App.start, Surroundings.loadThen, Bind.bind, EStateM.bind, EStateM.run, hload] at hstart
      cases hstart
  | ok _ loaded =>
      simp only [App.start, Surroundings.loadThen, Bind.bind, EStateM.bind, EStateM.run, hload] at hstart
      cases hconf : App.configure "Key Vault or .env" loaded with
      | error e after =>
          rw [hconf] at hstart
          cases hstart
      | ok m after =>
          rw [hconf] at hstart
          cases hstart
          obtain ⟨henv, htoken, hother⟩ := App.configure_ok hconf
          have hsetUp : OnDemand.setUp ⟨s, none⟩ =
              (⟨{ s with environment := loading.environment }, some m⟩, loading.notes, .ok m) := by
            simp only [OnDemand.setUp, Surroundings.loadThen, Bind.bind, EStateM.bind, EStateM.run, hload, hother]
            rfl
          refine ⟨m, rfl, ?_, ?_, ?_, ?_⟩
          · rw [← henv] at htoken
            exact htoken
          all_goals rw [hsetUp]

/-! ## One request -/

/-- What the application answers is what it serves, if that can be written. -/
theorem App.settled_answer [Server σ] (app : App) (r : TopicRequest) (b : Backends σ) :
    settled (app.answer r.request b) =
      ((settled (app.serve r.request r.endpoint b)).1 >>= Response.sent,
        (settled (app.serve r.request r.endpoint b)).2) := by
  unfold App.answer
  rw [r.route_eq]
  simp only [Bind.bind, EStateM.bind]
  cases app.serve r.request r.endpoint b with
  | error e after => rfl
  | ok response after =>
      simp only [settled, Except.bind]
      cases response.sent <;> rfl

/-- The application with masters and a token serves whoever shows the token. -/
theorem App.serve_eq [Server σ] {app : App} (hmasters : app.masters = some m)
    (htoken : (configuredToken? app.environment).isSome) (r : TopicRequest) :
    app.serve (σ := σ) r.request r.endpoint =
      if tokenMatches (r.request.header? "authorization") (app.environment.get? tokenVariable) then
        onMasters (serveTopic m r.request r.endpoint)
      else pure unauthorized := by
  obtain ⟨token, hconfigured⟩ := Option.isSome_iff_exists.mp htoken
  have hgate : gate app.environment r.request =
      if tokenMatches (r.request.header? "authorization") (app.environment.get? tokenVariable) then none
      else some unauthorized := by
    rw [gate, hconfigured, configuredToken?_eq hconfigured]
  have htopic := r.topic
  unfold App.serve
  cases hendpoint : r.endpoint with
  | sink engine task => simp [hendpoint] at htopic
  | topic | consumerAuth | topicConfig =>
      dsimp only
      rw [hgate, hmasters]
      cases tokenMatches (r.request.header? "authorization") (app.environment.get? tokenVariable) <;> rfl

/-- The front end that is ready serves whoever shows the token. -/
theorem OnDemand.answer_eq {f : OnDemand} {env : Environment} (h : f.Ready m env) (r : Request) (e : Endpoint) :
    f.answer r e = (f.setUp.1, do
      Topic.Exchange.noteAll f.setUp.2.1
      if tokenMatches (r.header? "authorization") (env.get? tokenVariable) then serve m r e
      else return .refusal 401 "Unauthorized") := by
  unfold answer
  dsimp only
  rw [h.outcome, h.environment]

namespace Fronts

/-- Both answer a request. -/
def answer [Server σ] (f : Fronts σ) (r : TopicRequest) :
    (Except Failure Response × Except Failure TextResponse) × Fronts σ :=
  let (response, backends) := settled (f.app.answer r.request f.backends)
  let (front, work) := f.front.answer r.request r.endpoint
  let (text, wire) := settled (work f.wire)
  ((response, text), { f with backends, front, wire })

/-- Both answer requests one after another. -/
def answers [Server σ] (f : Fronts σ) :
    List TopicRequest → List (Except Failure Response × Except Failure TextResponse) × Fronts σ
  | [] => ([], f)
  | r :: rest => ((f.answer r).1 :: ((f.answer r).2.answers rest).1, ((f.answer r).2.answers rest).2)

/-- The two know the same masters and the same token, asked the same and have the same replies to come. -/
structure Together (f : Fronts σ) (m : Masters) : Prop where
  masters : f.app.masters = some m
  token : (configuredToken? f.app.environment).isSome
  ready : f.front.Ready m f.app.environment
  requests : f.backends.wire.requests = f.wire.requests
  replies : f.backends.wire.replies = f.wire.replies

/-- One request is answered alike and leaves the two together. -/
theorem Together.answer [Server σ] {f : Fronts σ} (h : f.Together m) (r : TopicRequest) :
    Alike (f.answer r).1.1 (f.answer r).1.2 ∧ (f.answer r).2.Together m := by
  have hserve := App.serve_eq (σ := σ) h.masters h.token r
  have hfront := OnDemand.answer_eq h.ready r.request r.endpoint
  let noted : Wire := { f.wire with notes := f.wire.notes ++ f.front.setUp.2.1 }
  by_cases hmatches : tokenMatches (r.request.header? "authorization") (f.app.environment.get? tokenVariable)
  · rw [if_pos hmatches] at hserve hfront
    obtain ⟨sent, response, text, happ, htext, halike⟩ := serve_alike m r.request r.topic f.wire.replies
    obtain ⟨after, hafter, hrequests, hreplies⟩ := happ f.backends.wire h.replies
    obtain ⟨last, hlast, hrequests', hreplies'⟩ := htext noted rfl
    have hanswer : f.answer r = ((response >>= Response.sent, text),
        { f with backends := { f.backends with wire := after }, front := f.front.setUp.1, wire := last }) := by
      have hrun : settled ((f.front.answer r.request r.endpoint).2 f.wire) = (text, last) := by
        rw [hfront, ← settled_ended, ← hlast]
        rfl
      simp only [Fronts.answer, App.settled_answer, hserve, settled_onMasters, hafter, settled_ended, hrun]
      rw [hfront]
    rw [hanswer]
    refine ⟨halike, h.masters, h.token, h.ready.kept, ?_, hreplies.trans hreplies'.symm⟩
    rw [hrequests, hrequests', h.requests]
  · rw [if_neg hmatches] at hserve hfront
    have hencodable : unauthorized.isEncodable = true :=
      isEncodable_refusal 401 (Text.Printable.isEncodable (by decide +kernel))
    have hanswer : f.answer r = ((unauthorized.sent, .ok (.refusal 401 "Unauthorized")),
        { f with front := f.front.setUp.1, wire := noted }) := by
      simp only [Fronts.answer, App.settled_answer, hserve, hfront]
      rfl
    rw [hanswer, Response.sent_of_writable rfl hencodable]
    exact ⟨.document rfl hencodable, h.masters, h.token, h.ready.kept, h.requests, h.replies⟩

theorem Together.answers [Server σ] {f : Fronts σ} (h : f.Together m) (run : List TopicRequest) :
    (∀ both ∈ (f.answers run).1, Alike both.1 both.2) ∧ (f.answers run).2.Together m := by
  induction run generalizing f with
  | nil => exact ⟨fun both hboth => absurd hboth List.not_mem_nil, h⟩
  | cons r rest ih =>
      obtain ⟨halike, hnext⟩ := h.answer r
      obtain ⟨hrest, hlast⟩ := ih hnext
      rw [Fronts.answers]
      exact ⟨List.forall_mem_cons.mpr ⟨halike, hrest⟩, hlast⟩

end Fronts

/-- The two fronts in the same surroundings, before the first request. -/
def Configured.fronts (c : Configured) (link : Link σ) (wire : Wire) : Fronts σ :=
  ⟨c.app, ⟨link, wire⟩, ⟨c.surroundings, none⟩, wire⟩

/-- In every run of requests the two answer each one alike, and they send the same requests to masters, whatever these
reply. -/
theorem Configured.fronts_alike [Server σ] (c : Configured) (link : Link σ) (wire : Wire)
    (run : List TopicRequest) : ∃ answers after, (c.fronts link wire).answers run = (answers, after) ∧
      (∀ both ∈ answers, Alike both.1 both.2) ∧ after.backends.wire.requests = after.wire.requests ∧
      after.backends.wire.replies = after.wire.replies := by
  obtain ⟨m, hmasters, htoken, hready⟩ := c.ready
  have htogether : (c.fronts link wire).Together m := ⟨hmasters, htoken, hready, rfl, rfl⟩
  obtain ⟨halike, hafter⟩ := htogether.answers run
  exact ⟨_, _, rfl, halike, hafter.requests, hafter.replies⟩

/-- The program in surroundings, if it is configured. -/
def Configured.of? (s : Surroundings) : Option Configured :=
  match h : App.start s with
  | .ok app loading => some ⟨s, app, loading, h⟩
  | .error .. => none

end Both

def tokenSurroundings : Surroundings := ⟨⟨[]⟩, ⟨[]⟩, tokenEnvironment, .ofList []⟩

/-- A request to add a topic to the only cluster, with a token. -/
def addRequest (token : String) : TopicRequest where
  request := ⟨"POST", "/v1/topic", [("method", "add")], [("Authorization", "Bearer " ++ token)],
    Text.Utf8.encode "\x7b\x22clusterId\x22: 1\x7d".toList⟩
  endpoint := .topic
  found := show endpoint? "/v1/topic" = some .topic by decide +kernel
  method := rfl
  topic := List.mem_cons_self

/-- A master that answers twice, at first as masters do and then with data that is no number. -/
def endlessWire : Wire :=
  ⟨[.page "\x7b\x22errCode\x22: 0\x7d" 200, .page "\x7b\x22errCode\x22: 0, \x22data\x22: NaN\x7d" 200], [], []⟩

/-- The statuses of the answers to a run of requests, and how many the masters got. A failure has no status. -/
def Configured.statuses [Runtime] (c : Configured) (wire : Wire) (run : List TopicRequest) :
    List (Option Nat × Option Nat) × Nat × Nat :=
  let (answers, after) := (c.fronts (.fresh Script.empty) wire).answers run
  (answers.map fun both => (both.1.toOption.map Response.status, both.2.toOption.map TextResponse.status),
    after.backends.wire.requests.length, after.wire.requests.length)

/-- Where the data is no number, the front end answers with success and the application with nothing. -/
theorem Configured.fronts_part_at_endless :
    (Configured.of? tokenSurroundings).map
        (·.statuses endlessWire [addRequest "other", addRequest "secret", addRequest "secret"]) =
      some ([(some 401, some 401), (some 200, some 200), (none, some 200)], 2, 2) := by
  decide +kernel

/-- A master that answers with half of a pair as data. -/
def halvedWire : Wire := ⟨[.page "\x7b\x22errCode\x22: 0, \x22data\x22: \x22\\ud800\x22\x7d" 200], [], []⟩

example :
    (@Configured.of? (.reserving 100) tokenSurroundings).map
        (@Configured.statuses (.reserving 100) · halvedWire [addRequest "secret"]) =
      some ([(none, some 200)], 1, 1) := by
  decide +kernel

end SinkKeeper.Web
