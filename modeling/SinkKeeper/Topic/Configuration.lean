import SinkKeeper.Environment.Limits
import SinkKeeper.Topic.Master

/-!
# Configured masters

Which masters there are is told by a variable that holds a JSON object from cluster numbers to addresses.
-/

namespace SinkKeeper.Topic

variable [Runtime]

def nodesVariable : String := "MQ_MASTER_NODES"

/-- The addresses of a document, without blanks around them. -/
def nodesOfJson : Json → Except Failure (List (String × String))
  | .object fields => .ok (fields.map fun p => (p.1, Text.strip p.2.text))
  | _ => .error (.settings "MQ_MASTER_NODES must be a JSON object of clusterId to host:port")

/-- The addresses that an environment tells, and the notes left while reading them. -/
def nodesOf (env : Environment) : Except Failure (List (String × String) × List Note) :=
  let raw := env.stripped nodesVariable
  if raw = "" then
    .ok ([], [⟨.warning, "MQ_MASTER_NODES is not set; topic requests will fail with 'no such cluster'"⟩])
  else
    match Json.parse raw with
    | .ok j => (nodesOfJson j).map (·, [])
    | .error e =>
      if e.isSyntax then .error (.settings ("MQ_MASTER_NODES is not valid JSON: " ++ e.message))
      else .error (.unparsed e)

/-- The masters that an environment tells, and the notes left while reading them. -/
def Masters.ofEnvironment (env : Environment) : Except Failure (Masters × List Note) := do
  let (nodes, notes) ← nodesOf env
  let limit := env.masterLimit
  return (⟨nodes, .real limit.seconds⟩, notes ++ limit.notes)

end SinkKeeper.Topic
