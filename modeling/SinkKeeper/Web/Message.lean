import SinkKeeper.Failure
import SinkKeeper.Json.Printer
import SinkKeeper.Text.Case
import SinkKeeper.Text.Form

/-!
# Messages

Requests and the responses to them.
-/

namespace SinkKeeper.Web

/-! ## Requests -/

/-- A request. The path is without escapes; the parameters have each name once. -/
structure Request where
  method : String
  path : String
  params : List (String × String)
  headers : List (String × String)
  body : List UInt8

/-- The value of a header. The case of its name does not count. -/
def headerOf (headers : List (String × String)) (name : String) : Option String :=
  (headers.find? fun h => Text.lower h.1 == Text.lower name).map (·.2)

namespace Request

def header? (r : Request) (name : String) : Option String := headerOf r.headers name

def param? (r : Request) (name : String) : Option String := r.params.lookup name

def fields (r : Request) : Json.Fields := r.params.map fun p => (p.1, .string p.2)

/-- Takes one step of a path further, with the steps so far in reverse: a point stays where it is, two points
go back, though not before the start. -/
def takeStep : List String → String → List String
  | done, "." => done
  | [], ".." => []
  | [""], ".." => [""]
  | _ :: done, ".." => done
  | done, step => step :: done

def resolved (path : String) : String :=
  Text.join "/" ((Text.split '/' path).foldl takeStep []).reverse

/-- A request for a target: a path, and parameters after a question mark. What follows a number sign is not
sent. Escapes in a path are resolved by the sender and once more by the receiver. -/
def ofTarget (method target : String) (headers : List (String × String)) (body : List UInt8) : Request :=
  let sent := target.toList.takeWhile (· ≠ '#')
  let (path, query) := Text.cut (· = '?') sent
  {
    method := Text.upper method
    path := Text.Form.unescaped (Text.Form.unescaped (resolved (String.ofList path)))
    params := Entries.ofList (Text.Form.read (String.ofList (query.drop 1)))
    headers, body }

end Request

/-! ## Complaints -/

/-- What is wrong with a part of a body. -/
inductive Flaw
  | malformed
  | missing
  | noObject
  | noText
  | noUnicode
  | noFields
  | noList
deriving DecidableEq, Repr

def Flaw.name : Flaw → String
  | .malformed => "json_invalid"
  | .missing => "missing"
  | .noObject => "model_attributes_type"
  | .noText => "string_type"
  | .noUnicode => "string_unicode"
  | .noFields => "dict_type"
  | .noList => "list_type"

/-- A step on the way to a part of a body. -/
inductive Step
  | name (s : String)
  | number (n : Nat)
deriving DecidableEq, Repr

/-- A complaint tells what is wrong with which part of a body, and shows the value it is about. -/
structure Complaint where
  flaw : Flaw
  place : List Step
  value : Json

/-! ## What is shown -/

def privateStart : String := "_sa"

mutual
def publicPart : Json → Json
  | .array items => .array (publicItems items)
  | .object fields => .object (publicFields fields)
  | j => j

def publicItems : List Json → List Json
  | [] => []
  | item :: rest => publicPart item :: publicItems rest

def publicFields : List (String × Json) → List (String × Json)
  | [] => []
  | (key, value) :: rest =>
    if Text.startsWith key privateStart then publicFields rest
    else (key, publicPart value) :: publicFields rest
end

/-! ## Responses -/

/-- What a response carries: a document, a text that is passed on, or complaints about the request. -/
inductive Content
  | document (j : Json)
  | passed (text : String)
  | complaints (cs : List Complaint)

/-- A response. -/
structure Response where
  status : Nat
  content : Content

namespace Response

def refusal (status : Nat) (detail : Json) : Response := ⟨status, .document (.object [("detail", detail)])⟩

def isSuccess (r : Response) : Bool := 200 ≤ r.status && r.status < 300

/-- Whether every number that a response shows is finite. -/
def isFinite (r : Response) : Bool :=
  match r.content with
  | .document j => j.isFinite
  | .passed _ => true
  | .complaints cs => cs.all fun c => (publicPart c.value).isFinite

section Sent

variable [Runtime]

/-- Whether every text that a response shows has bytes. -/
def isEncodable (r : Response) : Bool :=
  match r.content with
  | .document j => j.isEncodable
  | .passed text => Text.isEncodable text
  | .complaints cs => cs.all fun c => (publicPart c.value).isEncodable

/-- Whether a response can be written: strict readers know no infinite numbers, and halves have no bytes. -/
def isWritable (r : Response) : Bool := r.isFinite && r.isEncodable

/-- A response as it is sent. Its numbers are looked at before its bytes. -/
def sent (r : Response) : Except Failure Response :=
  if r.isWritable then .ok r else .error (.shape (if r.isFinite then .unencodable else .unwritable))

variable {r : Response}

theorem sent_of_writable (hfinite : r.isFinite = true) (hencodable : r.isEncodable = true) : r.sent = .ok r := by
  rw [sent, isWritable, hfinite, hencodable]
  rfl

theorem sent_of_endless (h : r.isFinite = false) : r.sent = .error (.shape .unwritable) := by
  rw [sent, isWritable, h]
  rfl

theorem sent_of_halved (hfinite : r.isFinite = true) (h : r.isEncodable = false) :
    r.sent = .error (.shape .unencodable) := by
  rw [sent, isWritable, hfinite, h]
  rfl

end Sent

@[simp] theorem isEncodable_plain (r : Response) : r.isEncodable = true := by
  unfold isEncodable
  split <;> simp

end Response

end SinkKeeper.Web
