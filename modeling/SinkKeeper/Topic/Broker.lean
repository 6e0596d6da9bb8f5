import SinkKeeper.Topic.Master

/-!
# Brokers

A master tells what it knows of a topic broker by broker. A topic can be written to only if every broker
that holds it takes messages.
-/

namespace SinkKeeper.Topic

variable [Runtime]

def topicInfoMethod : String := "admin_query_topic_info"

def topicUnknown (topic : String) : Verdict := .refused ("topic not exist: " ++ topic)

def objectsOf (items : List Json) : List Json.Fields :=
  items.filterMap fun
    | .object fields => some fields
    | _ => none

/-- What is known of topics, broker by broker. -/
def brokersOf (answer : Json.Fields) : Except ShapeError (List Json.Fields) := do
  let topics ← (Json.fieldOrNull answer "data").itemsOrNone
  let lists ← (objectsOf topics).mapM fun topic => (Json.fieldOrNull topic "topicInfo").itemsOrNone
  return objectsOf lists.flatten

/-- Whether a value says yes: the word `true`, or anything but a text that counts as present. -/
def saysYes : Json → Bool
  | .string s => Text.lower (Text.strip s) == "true"
  | j => j.isTruthy

/-- Whether a broker takes messages. How it runs counts before how it is set up. -/
def acceptsPublish (broker : Json.Fields) : Except ShapeError Bool := do
  let running := Json.fieldOrNull broker "runInfo"
  let fields ← if running.isTruthy then running.fieldsFor "get" else pure broker
  return saysYes (Json.fieldOrNull fields "acceptPublish")

/-- Whether all brokers take messages. Those after the first that does not are not looked at. -/
def allAccept : List Json.Fields → Except ShapeError Bool
  | [] => .ok true
  | broker :: rest => do
    if ← acceptsPublish broker then allAccept rest else return false

def topicInfoFields (topic : String) (cluster : Json) : Json.Fields :=
  [("method", .string topicInfoMethod), ("topicName", .string topic), ("clusterId", cluster)]

def canWrite (m : Masters) (topic : String) (cluster : Json) : Exchange Verdict := do
  match ← Exchange.attempt (m.ask (topicInfoFields topic cluster)) with
  | .error reason => return .refused reason
  | .ok answer =>
    let brokers ← brokersOf answer
    if brokers.isEmpty then return topicUnknown topic
    let accepted ← allAccept brokers
    Exchange.note .info ("query can write for topic=" ++ topic ++ " cluster=" ++ cluster.text ++ ", result="
      ++ (Json.bool accepted).shown)
    return ⟨0, "", accepted, .null⟩

end SinkKeeper.Topic
