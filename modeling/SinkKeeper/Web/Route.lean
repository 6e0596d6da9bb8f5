import SinkKeeper.Text.Blank
import SinkKeeper.Web.Message

/-!
# Routes

Which path and method lead where.
-/

namespace SinkKeeper.Web

/-- What can be asked of a sink over the wire. -/
inductive SinkTask
  | createDatabase
  | createTable
  | addColumns
  | listTables
  | listColumns
deriving DecidableEq, Repr

/-- Where a request can lead. -/
inductive Endpoint
  | topic
  | consumerAuth
  | topicConfig
  | sink (engine : String) (task : SinkTask)
deriving DecidableEq, Repr

def Endpoint.method : Endpoint → String
  | .topic | .sink .. => "POST"
  | .consumerAuth | .topicConfig => "GET"

def sinkTask? : List String → Option SinkTask
  | ["databases"] => some .createDatabase
  | ["tables"] => some .createTable
  | ["columns"] => some .addColumns
  | ["tables", "list"] => some .listTables
  | ["columns", "list"] => some .listColumns
  | _ => none

/-- The part of a path that counts: neither slashes at its end do, nor one line feed before them. -/
def countingPart (path : String) : String :=
  String.ofList (Text.withoutLastFeed (Text.trimRightWith (· = '/') path.toList))

def endpoint? (path : String) : Option Endpoint :=
  match Text.split '/' (countingPart path) with
  | ["", "v1", "topic"] => some .topic
  | ["", "v1", "topic", "consumerAuth"] => some .consumerAuth
  | ["", "v1", "topic", "topicConfig"] => some .topicConfig
  | "" :: "api" :: "sinks" :: engine :: rest =>
    if engine = "" then none else (sinkTask? rest).map (.sink engine)
  | _ => none

def notFound : Response := .refusal 404 (.string "Not Found")

/-- There is something at a path, but not for this method. -/
def wrongMethod : Response := .refusal 405 (.string "Method Not Allowed")

/-- Where a request leads, or why it leads nowhere. -/
def route (r : Request) : Except Response Endpoint :=
  match endpoint? r.path with
  | none => .error notFound
  | some e => if e.method = r.method then .ok e else .error wrongMethod

end SinkKeeper.Web
