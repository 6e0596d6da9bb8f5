import SinkKeeper.Json.Printer
import SinkKeeper.Topic.Cloning

/-!
# The topic proxy

One entry for all topic operations: a method and a body with the parameters. Most are passed on to the
master of the cluster as they are.
-/

namespace SinkKeeper.Topic

/-- The operations on topics. -/
inductive Method
  | add
  | clone
  | authControl
  | modify
  | delete
  | remove
  | queryCanWrite
  | publish
  | subscribe
deriving DecidableEq, Repr

namespace Method

def all : List Method :=
  [.add, .clone, .authControl, .modify, .delete, .remove, .queryCanWrite, .publish, .subscribe]

def name : Method → String
  | .add => "add"
  | .clone => "clone"
  | .authControl => "authControl"
  | .modify => "modify"
  | .delete => "delete"
  | .remove => "remove"
  | .queryCanWrite => "queryCanWrite"
  | .publish => "publish"
  | .subscribe => "subscribe"

def ofName? (name : String) : Option Method := all.find? (·.name == name)

theorem ofName?_name (method : Method) : ofName? method.name = some method := by
  cases method <;> decide

end Method

variable [Runtime]

/-! ## Operations -/

/-- The parameters that switch the control of access on or off, whatever the request says. -/
def authControlFields (request : Json.Fields) : Json.Fields :=
  Entries.put "createUser" (.string "admin")
    (Entries.put "type" (.string "op_modify")
      (Entries.put "method" (.string "admin_set_topic_authorize_control") request))

/-- Whether the topic of a request can be written to. A topic and a cluster must be named. -/
def askCanWrite (m : Masters) (request : Json.Fields) : Exchange Verdict :=
  let cluster := Json.fieldOrNull request "clusterId"
  match Json.fieldOrNull request "topicName" with
  | .string topic =>
    if Text.isAllBlank topic || cluster.isNull then return parameterIllegal
    else canWrite m (Text.strip topic) cluster
  | _ => return parameterIllegal

def askClone (m : Masters) (request : Json.Fields) : Exchange Verdict :=
  match Cloning.ofRequest? request with
  | some cloning => cloning.run m
  | none => return parameterIllegal

def Method.run (m : Masters) (request : Json.Fields) : Method → Exchange Verdict
  | .clone => askClone m request
  | .authControl => m.relay (authControlFields request)
  | .queryCanWrite => askCanWrite m request
  | _ => m.relay request

/-! ## Entry -/

/-- A text that may be absent, in notes. -/
def noteText (text : Option String) : String := text.getD Json.null.shown

/-- Does the operation of a method name with the parameters of a body. -/
def dispatch (m : Masters) (method body : Option String) : Exchange Verdict := do
  Exchange.note .info ("Received method for topicMethodProxy: " ++ noteText method)
  Exchange.note .info ("Received req for topicMethodProxy: " ++ noteText body)
  match method.bind Method.ofName? with
  | none =>
    Exchange.note .warning ("Invalid method value received: " ++ noteText method)
    return .refused "Invalid method value."
  | some known =>
    match Json.parse (body.getD "") with
    | .ok (.object request) => known.run m request
    | .ok _ => return parameterIllegal
    | .error e =>
      if e.isSyntax then
        Exchange.note .warning ("Invalid JSON format received: " ++ noteText body)
        return .refused "Invalid JSON format."
      else throw (.unparsed e)

/-- Passes parameters on to a master and the text of its answer back. -/
def passOn (m : Masters) (fields : Json.Fields) : Exchange String := do
  let asked : Exchange String := do
    let url ← m.queryUrl fields
    m.fetch url
  match ← Exchange.attempt asked with
  | .ok text => return text
  | .error reason => return (Verdict.refused reason).toJson.render .spaced

end SinkKeeper.Topic
