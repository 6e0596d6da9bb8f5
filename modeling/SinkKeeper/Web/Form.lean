import SinkKeeper.Failure
import SinkKeeper.Json.Parser
import SinkKeeper.Text.Encoding
import SinkKeeper.Web.Route

/-!
# Forms

The bodies that the endpoints of sinks expect: objects with some fields of given kinds. All complaints about
a body are told at once, in the order of the fields.
-/

namespace SinkKeeper.Web

variable [Runtime]

/-! ## Reading a body -/

/-- What a body holds: nothing, a document, or bytes that are not said to be one. -/
inductive Body
  | none
  | document (j : Json)
  | bytes (bytes : List UInt8)

def mediaType (value : String) : String :=
  Text.lower (Text.strip (String.ofList (Text.cut (· = ';') value.toList).1))

def isJsonType (value : String) : Bool :=
  match Text.split '/' (mediaType value) with
  | ["application", kind] => kind = "json" || "+json".toList.isSuffixOf kind.toList
  | _ => false

/-- Whether a request says that its body is a JSON document. One that says nothing of it does not. -/
def saysJson (r : Request) : Bool := (r.header? "content-type").any isJsonType

/-- A body that is no text, is too deep or holds numbers that are too long, is refused as a whole. -/
def unreadableBody : Response := .refusal 400 (.string "There was an error parsing the body")

def malformedBody (offset : Nat) : Response :=
  ⟨422, .complaints [⟨.malformed, [.name "body", .number offset], .object []⟩]⟩

def readBody (r : Request) : Except Response Body :=
  if r.body.isEmpty then .ok .none
  else if !saysJson r then .ok (.bytes r.body)
  else
    match Text.decodeTold? r.body with
    | none => .error unreadableBody
    | some cs =>
      match Json.parse (String.ofList cs) with
      | .ok j => .ok (.document j)
      | .error e =>
        match e.place? with
        | some place => .error (malformedBody place.offset)
        | none => .error unreadableBody

/-! ## Checking a body -/

/-- The kinds of field. A list of objects may be left out. -/
inductive FieldKind
  | text
  | textOrNull
  | object
  | objects
deriving DecidableEq, Repr

/-- The fields of every form: where the sink is and who connects to it. -/
def connectionFields : List (String × FieldKind) :=
  [("url", .text), ("username", .text), ("password", .textOrNull)]

def SinkTask.formFields : SinkTask → List (String × FieldKind)
  | .createDatabase | .listTables => connectionFields ++ [("database", .text)]
  | .createTable => connectionFields ++ [("table", .object)]
  | .addColumns => connectionFields ++ [("database", .text), ("table", .text), ("columns", .objects)]
  | .listColumns => connectionFields ++ [("database", .text), ("table", .text)]

/-- The complaints about a text: where forms do not take halves, it must have bytes. -/
def textComplaints (place : List Step) (s : String) : List Complaint :=
  if Runtime.formsTakeHalves || Text.isEncodable s then [] else [⟨.noUnicode, place, .string s⟩]

/-- The complaints about the names of an object. -/
def nameComplaints (place : List Step) (fields : Json.Fields) : List Complaint :=
  fields.flatMap fun p => textComplaints (place ++ [.name p.1, .name "[key]"]) p.1

/-- The complaints about the items of a list of objects, counted from `index`. -/
def itemComplaints (place : List Step) (index : Nat) : List Json → List Complaint
  | [] => []
  | .object fields :: rest =>
    nameComplaints (place ++ [.number index]) fields ++ itemComplaints place (index + 1) rest
  | item :: rest => ⟨.noFields, place ++ [.number index], item⟩ :: itemComplaints place (index + 1) rest

/-- The complaints about a field. A field that is missing is told of the whole object. -/
def fieldComplaints (whole : Json.Fields) (name : String) (kind : FieldKind) : List Complaint :=
  let place := [Step.name "body", Step.name name]
  match kind, whole.lookup name with
  | .text, none | .object, none => [⟨.missing, place, .object whole⟩]
  | .textOrNull, none | .objects, none => []
  | .text, some (.string s) | .textOrNull, some (.string s) => textComplaints place s
  | .textOrNull, some .null => []
  | .text, some value | .textOrNull, some value => [⟨.noText, place, value⟩]
  | .object, some (.object fields) => nameComplaints place fields
  | .object, some value => [⟨.noFields, place, value⟩]
  | .objects, some (.array items) => itemComplaints place 0 items
  | .objects, some value => [⟨.noList, place, value⟩]

def formComplaints (form : List (String × FieldKind)) (fields : Json.Fields) : List Complaint :=
  form.flatMap fun f => fieldComplaints fields f.1 f.2

def notAnObject (value : Json) : Complaint := ⟨.noObject, [.name "body"], value⟩

/-- The fields of a body, or the complaints about it. Bytes that are shown in a complaint must be a text. -/
def checkBody (form : List (String × FieldKind)) (body : Body) :
    Except Failure (Except (List Complaint) Json.Fields) :=
  match body with
  | .none => .ok (.error [⟨.missing, [.name "body"], .null⟩])
  | .bytes bytes =>
    match Text.Utf8.decode? bytes with
    | .ok cs => .ok (.error [notAnObject (.string (String.ofList cs))])
    | .error e => .error (.undecoded e)
  | .document (.object fields) =>
    match formComplaints form fields with
    | [] => .ok (.ok fields)
    | complaints => .ok (.error complaints)
  | .document j => .ok (.error [notAnObject j])

end SinkKeeper.Web
