import SinkKeeper.Environment.Loading
import SinkKeeper.Sink
import SinkKeeper.Token
import SinkKeeper.Topic.Configuration
import SinkKeeper.Topic.Proxy
import SinkKeeper.Web.Form

/-!
# The web application

Endpoints for topics and for sinks. Only requests with the configured token reach a master or a sink. What a
body says is looked at after the token, apart from whether it can be read at all.
-/

namespace SinkKeeper.Web

/-! ## Backends -/

/-- What requests are served from: the way to the sinks and the way to the masters. -/
structure Backends (σ : Type) where
  link : Link σ
  wire : Topic.Wire

/-- Serving a request. What happened before a failure stays. -/
abbrev Serving (σ : Type) := EStateM Failure (Backends σ)

def onSink {σ α : Type} (work : Task σ α) : Serving σ α := fun b =>
  match work b.link with
  | .ok a link => .ok a { b with link }
  | .error e link => .error e { b with link }

def onMasters {σ α : Type} (work : Topic.Exchange α) : Serving σ α := fun b =>
  match work b.wire with
  | .ok a wire => .ok a { b with wire }
  | .error e wire => .error e { b with wire }

instance {σ : Type} : MonadLift (Except Failure) (Serving σ) where
  monadLift
    | .ok a => pure a
    | .error e => throw e

/-! ## The application -/

/-- The application: its variables and the masters it knows, if it was told of any. -/
structure App where
  environment : Environment
  masters : Option Topic.Masters

def tokenVariable : String := "API_AUTH_TOKEN"

/-- The token that is configured, unless it is empty. -/
def configuredToken? (env : Environment) : Option String :=
  match env.get? tokenVariable with
  | none | some "" => none
  | some token => some token

def unauthorized : Response := .refusal 401 (.string "Unauthorized")

/-- Why a request may not be served, if it may not. -/
def gate (env : Environment) (r : Request) : Option Response :=
  match configuredToken? env with
  | none => some (.refusal 503 (.string "Server configuration error: API_AUTH_TOKEN not set"))
  | some token => if tokenMatches (r.header? "authorization") (some token) then none else some unauthorized

/-! ## Sinks -/

def unknownEngine (engine : String) : Response :=
  .refusal 404 (.object [("detail", .string "Unknown sink engine"), ("engine", .string engine),
    ("supported", .array (Dialect.all.map fun d => .string d.name))])

def invalidTable [Runtime] (e : ShapeError) : Response :=
  .refusal 400 (.object [("detail", .string ("Invalid table description: " ++ e.message))])

/-- Whether an error of a description is the sender's; others are not expected. -/
def isSendersError (e : ShapeError) : Bool := e.family ∈ [ShapeFamily.key, .type, .value]

/-- The status of a report: of a failed one, it tells whose fault it was. -/
def statusOf (r : Report) : Nat :=
  match r.failure with
  | none => 200
  | some e =>
    match e.family with
    | .validation => 400
    | .connection => 502
    | .query | .execution => 500

def reportResponse (r : Report) : Response := ⟨statusOf r, .document (publicPart r.toJson)⟩

def sinkOf (d : Dialect) (form : Json.Fields) : Sink where
  dialect := d
  url := (Json.fieldOrNull form "url").text
  user := (Json.fieldOrNull form "username").text
  password := match Json.fieldOrNull form "password" with
    | .string s => some s
    | _ => none
  connectSeconds := none
  statementSeconds := none

def tableIn (form : Json.Fields) : SinkTask → Json
  | .addColumns => .object [("database", Json.fieldOrNull form "database"),
      ("name", Json.fieldOrNull form "table"), ("columns", (form.lookup "columns").getD (.array []))]
  | _ => Json.fieldOrNull form "table"

def SinkTask.operation (form : Json.Fields) (task : SinkTask) : Except ShapeError Operation :=
  let database := Json.fieldOrNull form "database"
  match task with
  | .createDatabase => .ok (.createDatabase database)
  | .listTables => .ok (.listTables database)
  | .listColumns => .ok (.listColumns database (Json.fieldOrNull form "table"))
  | .createTable => (Table.ofJson (tableIn form task)).map .createTable
  | .addColumns => (Table.ofJson (tableIn form task)).map .addColumns

variable [Runtime] {σ : Type} [Server σ]

def serveSink (env : Environment) (engine : String) (task : SinkTask) (form : Json.Fields) :
    Serving σ Response := do
  match Dialect.ofName (.string engine) with
  | .ok (some d) =>
    match task.operation form with
    | .error e => if isSendersError e then return invalidTable e else throw (.shape e)
    | .ok operation =>
      let report ← onSink ((sinkOf d form).run env operation)
      return reportResponse report
  | .ok none => return unknownEngine engine
  | .error e => throw (.shape e)

/-! ## Topics -/

def noMasters : Response := .refusal 503 (.string "Topic services are not initialised")

def serveTopic (m : Topic.Masters) (r : Request) : Endpoint → Topic.Exchange Response
  | .consumerAuth | .topicConfig => do
    let text ← Topic.passOn m r.fields
    return ⟨200, .passed text⟩
  | _ => do
    let body := String.ofList (Text.Utf8.decodeReplacing r.body)
    let verdict ← Topic.dispatch m (r.param? "method") (some body)
    return ⟨200, .document verdict.toJson⟩

/-! ## Answering -/

namespace App

def serve (app : App) (r : Request) : Endpoint → Serving σ Response
  | .sink engine task => do
    match readBody r with
    | .error refusal => return refusal
    | .ok body =>
      match gate app.environment r with
      | some refusal => return refusal
      | none =>
        match ← checkBody task.formFields body with
        | .error complaints => return ⟨422, .complaints complaints⟩
        | .ok form => serveSink app.environment engine task form
  | e =>
    match gate app.environment r with
    | some refusal => return refusal
    | none =>
      match app.masters with
      | none => return noMasters
      | some m => onMasters (serveTopic m r e)

/-- Answers a request. A response that cannot be written is a failure. -/
def answer (app : App) (r : Request) : Serving σ Response := do
  let response ← match route r with
    | .error refusal => pure refusal
    | .ok e => app.serve r e
  response.sent

def tokenNotSet (hint : String) : Failure := .settings ("API_AUTH_TOKEN is not set (" ++ hint ++ ")")

/-- Reads what a loaded environment configures. A token is needed. -/
def configure (hint : String) : Load Topic.Masters := do
  let env := (← get).environment
  if (configuredToken? env).isNone then throw (tokenNotSet hint)
  match Topic.Masters.ofEnvironment env with
  | .error e => throw e
  | .ok (m, notes) =>
    modify fun s => { s with notes := s.notes ++ notes }
    return m

def start (s : Surroundings) : EStateM.Result Failure Loading App :=
  s.loadThen do
    let m ← configure "Key Vault or .env"
    return ⟨(← get).environment, some m⟩

end App

end SinkKeeper.Web
