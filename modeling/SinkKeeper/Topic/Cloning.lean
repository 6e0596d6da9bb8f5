import SinkKeeper.Topic.Broker

/-!
# Cloning topics

New topics with the settings of one that is there. The settings are those of its first broker; the new
topics are made one after another, and the first that is refused ends the work.
-/

namespace SinkKeeper.Topic

variable [Runtime]

def clonedSettings : List String :=
  ["numPartitions", "unflushThreshold", "unflushInterval", "deleteWhen", "deletePolicy", "numTopicStores",
    "acceptPublish", "acceptSubscribe"]

def parameterIllegal : Verdict := .refused "param illegal"

/-- The names of a list that may also be written as a text with commas. Blank names do not count. -/
def namesOf : Json → List Json
  | .null => []
  | .string s => ((Text.split ',' s).map Text.strip).filterMap fun name =>
      if name = "" then none else some (.string name)
  | .array items => items.filter fun item => !Text.isAllBlank item.text
  | j => [j]

def settingsOf (broker : Json.Fields) : Json.Fields :=
  clonedSettings.filterMap fun key => (broker.lookup key).map fun value => (key, value)

def creatorOf (request : Json.Fields) : Json :=
  ((Json.fieldOrNull request "createUser").orElse (Json.fieldOrNull request "modifyUser")).orElse
    (.string "admin")

/-- What is cloned, onto which brokers, and on whose behalf. -/
structure Cloning where
  source : String
  targets : List Json
  brokers : List Json
  cluster : Json
  creator : Json

namespace Cloning

/-- Reads a request. A source, a target and a broker must be named. -/
def ofRequest? (request : Json.Fields) : Option Cloning :=
  let source := Text.strip ((Json.fieldOrNull request "sourceTopicName").orElse (.string "")).text
  let targets := namesOf (Json.fieldOrNull request "targetTopicNames")
  let brokers := namesOf (Json.fieldOrNull request "brokerId")
  if source = "" || targets.isEmpty || brokers.isEmpty then none
  else some ⟨source, targets, brokers, Json.fieldOrNull request "clusterId", creatorOf request⟩

def fieldsFor (c : Cloning) (settings : Json.Fields) (target : Json) : Json.Fields :=
  settings ++ [("method", .string "admin_add_new_topic_record"), ("type", .string "op_modify"),
    ("topicName", target), ("brokerId", .string (Text.join "," (c.brokers.map Json.text))),
    ("clusterId", c.cluster), ("createUser", c.creator)]

def addTargets (m : Masters) (c : Cloning) (settings : Json.Fields) : List Json → Exchange Verdict
  | [] => return .success
  | target :: rest => do
    let verdict ← m.relay (c.fieldsFor settings target)
    if verdict.accepted then
      Exchange.note .info ("clone topic " ++ c.source ++ " to " ++ target.text ++ " on brokers "
        ++ (Json.array c.brokers).shown ++ " success")
      addTargets m c settings rest
    else
      Exchange.note .warning ("clone topic " ++ c.source ++ " to " ++ target.text ++ " failed: "
        ++ verdict.text)
      return verdict

def run (m : Masters) (c : Cloning) : Exchange Verdict := do
  match ← Exchange.attempt (m.ask (topicInfoFields c.source c.cluster)) with
  | .error reason => return .refused reason
  | .ok answer =>
    match ← brokersOf answer with
    | [] => return topicUnknown c.source
    | broker :: _ => c.addTargets m (settingsOf broker) c.targets

end Cloning

end SinkKeeper.Topic
