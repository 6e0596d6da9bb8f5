import SinkKeeper.Web.App

/-!
# On demand

The topic endpoints without a running application: the first request that comes loads the environment, and
if that fails, the next one tries again.
-/

namespace SinkKeeper.Web

/-- The front end: where it runs, and the masters it knows once it has been set up. -/
structure OnDemand where
  surroundings : Surroundings
  masters : Option Topic.Masters

/-- A response of the front end: a status and a text. -/
structure TextResponse where
  status : Nat
  text : String
deriving Repr

namespace TextResponse

def mediaType : String := "application/json"

variable [Runtime]

def ofJson (status : Nat) (j : Json) : TextResponse := ⟨status, j.render .spaced⟩

def refusal (status : Nat) (detail : String) : TextResponse :=
  ofJson status (.object [("detail", .string detail)])

end TextResponse

namespace OnDemand

variable [Runtime]

def withEnvironment (f : OnDemand) (env : Environment) : OnDemand :=
  { f with surroundings := { f.surroundings with environment := env } }

def withVariables (f : OnDemand) (added : List (String × String)) : OnDemand :=
  f.withEnvironment (added.foldl (fun env p => env.set p.1 p.2) f.surroundings.environment)

/-- Sets the front end up unless it is. What was loaded stays loaded if the setup fails. -/
def setUp (f : OnDemand) : OnDemand × List Note × Except Failure Topic.Masters :=
  match f.masters with
  | some m => (f, [], .ok m)
  | none =>
    match f.surroundings.loadThen (App.configure "Key Vault or local settings") with
    | .error e loading => (f.withEnvironment loading.environment, loading.notes, .error e)
    | .ok m loading =>
      ({ f.withEnvironment loading.environment with masters := some m }, loading.notes, .ok m)

def serve (m : Topic.Masters) (r : Request) : Endpoint → Topic.Exchange TextResponse
  | .consumerAuth | .topicConfig => do
    let text ← Topic.passOn m r.fields
    if Text.isEncodable text then return ⟨200, text⟩ else throw (.shape .unencodable)
  | _ => do
    let body := String.ofList (Text.Utf8.decodeReplacing r.body)
    let verdict ← Topic.dispatch m (r.param? "method") (some body)
    return .ofJson 200 verdict.toJson

def answer (f : OnDemand) (r : Request) (e : Endpoint) : OnDemand × Topic.Exchange TextResponse :=
  let (f, notes, outcome) := f.setUp
  let token := f.surroundings.environment.get? tokenVariable
  (f, do
    Topic.Exchange.noteAll notes
    match outcome with
    | .error failure => return .refusal 503 failure.message
    | .ok m =>
      if tokenMatches (r.header? "authorization") token then serve m r e
      else return .refusal 401 "Unauthorized")

end OnDemand

end SinkKeeper.Web
