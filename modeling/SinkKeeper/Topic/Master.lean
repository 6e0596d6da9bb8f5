import SinkKeeper.Failure
import SinkKeeper.Note
import SinkKeeper.Text.Form
import SinkKeeper.Topic.Verdict

/-!
# Masters

A cluster of brokers is run by its master, which answers requests with JSON objects. Clusters are told by
their numbers; with a single master the number may be left out.
-/

namespace SinkKeeper.Topic

open Number (Numeral)

/-! ## Requests and replies -/

/-- A request: the address that is asked and how long the answer may take. -/
structure Request where
  url : String
  timeout : Numeral

/-- What a request brings back. -/
inductive Reply
  | page (text : String) (status : Int)
  | failed (f : Fault)

/-- The replies still to come, and the requests and notes so far. -/
structure Wire where
  replies : List Reply
  requests : List Request
  notes : List Note

/-- Work on a wire that ends with a result or a failure. What happened before a failure stays. -/
abbrev Exchange := EStateM Failure Wire

instance : MonadLift (Except Failure) Exchange where
  monadLift
    | .ok a => pure a
    | .error e => throw e

instance : MonadLift (Except ShapeError) Exchange where
  monadLift
    | .ok a => pure a
    | .error e => throw (.shape e)

namespace Exchange

def noteAll (notes : List Note) : Exchange Unit := modify fun wire => { wire with notes := wire.notes ++ notes }

def note (level : Level) (text : String) : Exchange Unit := noteAll [⟨level, text⟩]

/-- What a request brings back when no reply is left. -/
def noReply : Reply := .failed (.plain .requestConnection "no reply")

def send (r : Request) : Exchange Reply := do
  let wire ← get
  set { wire with replies := wire.replies.tail, requests := wire.requests ++ [r] }
  return wire.replies.headD noReply

/-- Does the work; if a master cannot be asked or does not answer as masters do, gives the reason. -/
def attempt {α : Type} (work : Exchange α) : Exchange (Except String α) := fun wire =>
  match work wire with
  | .ok a wire => .ok (.ok a) wire
  | .error (.master reason) wire => .ok (.error reason) wire
  | .error e wire => .error e wire

end Exchange

/-! ## Addresses -/

/-- The masters by the numbers of their clusters, and how long an answer may take. -/
structure Masters where
  nodes : List (String × String)
  timeout : Numeral

def noSuchCluster : String := "no such cluster"

def masterUnreachable : String := "request master failed"

def masterPath : String := "/webapi.htm"

section Carried

variable [Runtime]

/-- A value as a request carries it: truth values in lower case, the items of a list between commas. -/
def queryText : Json → String
  | .bool b => if b then "true" else "false"
  | .array items => Text.join "," (items.map Json.text)
  | j => j.text

/-- The fields that a request carries. Null is left out. -/
def queryPairs (fields : Json.Fields) : List (String × String) :=
  (fields.filter fun p => !p.2.isNull).map fun p => (p.1, queryText p.2)

/-- Whether a request can carry the fields: their names and their texts have bytes. -/
def canCarry (fields : Json.Fields) : Bool :=
  (queryPairs fields).all fun p => Text.isEncodable p.1 && Text.isEncodable p.2

end Carried

@[simp] theorem canCarry_plain (fields : Json.Fields) : canCarry fields = true := by
  simp [canCarry]

namespace Masters

variable [Runtime]

def addressOf (m : Masters) (cluster : Json) : Except Failure String :=
  let number := Text.strip cluster.text
  if cluster.isNull || number = "" then
    match m.nodes with
    | [(_, address)] => .ok address
    | _ => .error (.master noSuchCluster)
  else
    match m.nodes.lookup number with
    | some address =>
      if address = "" then .error (.master (noSuchCluster ++ ": " ++ cluster.text)) else .ok address
    | none => .error (.master (noSuchCluster ++ ": " ++ cluster.text))

/-- The address that carries fields to the master of their cluster, if it can carry them. -/
def queryUrl (m : Masters) (fields : Json.Fields) : Except Failure String := do
  let address ← m.addressOf (Json.fieldOrNull fields "clusterId")
  if canCarry fields then return "http://" ++ address ++ masterPath ++ "?" ++ Text.Form.write (queryPairs fields)
  else throw (.shape .unencodable)

/-! ## Asking -/

def fetch (m : Masters) (url : String) : Exchange String := do
  match ← Exchange.send ⟨url, m.timeout⟩ with
  | .page text status =>
    Exchange.note .info ("request master " ++ url ++ " status=" ++ Number.writeInt status)
    return text
  | .failed f =>
    if f.kind.isRequest then
      Exchange.note .warning ("request master " ++ url ++ " failed: " ++ f.text)
      throw (.master (masterUnreachable ++ ": " ++ f.text))
    else throw (.fault f)

def answerOf (text : String) : Except Failure Json.Fields :=
  match Json.parse text with
  | .ok (.object fields) => .ok fields
  | .ok _ => .error (.master (masterUnreachable ++ ": unexpected master answer"))
  | .error e =>
    if e.isSyntax then .error (.master (masterUnreachable ++ ": master answered with non-JSON body"))
    else .error (.unparsed e)

def ask (m : Masters) (fields : Json.Fields) : Exchange Json.Fields := do
  let url ← m.queryUrl fields
  let text ← m.fetch url
  answerOf text

/-- The verdict of an answer; a code that is no number is noted and refused. -/
def verdictOf (answer : Json.Fields) : Exchange Verdict := do
  match Verdict.ofFields answer with
  | .ok verdict => return verdict
  | .error e =>
    if e.family = .value then
      Exchange.note .warning ("master answered " ++ (Json.object answer).shown ++ ": " ++ e.message)
      return .refused (masterUnreachable ++ ": unexpected master answer")
    else throw (.shape e)

def relay (m : Masters) (fields : Json.Fields) : Exchange Verdict := do
  match ← Exchange.attempt (m.ask fields) with
  | .ok answer => verdictOf answer
  | .error reason => return .refused reason

end Masters

end SinkKeeper.Topic
