import SinkKeeper.Json.Display
import SinkKeeper.Json.Parser
import SinkKeeper.Text.Case

/-!
# Loose values

Reading a value whose shape nobody has checked: fields, items, whole numbers. Each way in which the shape
can be wrong has its own error.
-/

namespace SinkKeeper

open Number (Numeral Double)

/-- How a value fails to have the shape that its use needs. -/
inductive ShapeError
  | missingField (key : String)
  | noFields (kind : Json.Kind)
  | noItems (kind : Json.Kind)
  | noOperation (kind : Json.Kind) (operation : String)
  | notText (kind : Json.Kind)
  | notNumber (kind : Json.Kind)
  | notNumeral (text : String)
  | numeralTooLong (digits : Nat)
  | nanNumber
  | infiniteNumber
  | shortRow (fetched : Bool)
  | wrongCode (value : Json)
  | notTables
  | notTable (entry : Json)
  | unwritable
  | unencodable

/-- The families of shape error that callers tell apart. -/
inductive ShapeFamily
  | key
  | type
  | value
  | attribute
  | overflow
  | index
deriving DecidableEq, Repr

namespace ShapeError

def family : ShapeError → ShapeFamily
  | .missingField _ => .key
  | .noFields _ | .noItems _ | .notText _ | .notNumber _ => .type
  | .notNumeral _ | .numeralTooLong _ | .nanNumber | .wrongCode _ | .notTables | .notTable _
  | .unwritable | .unencodable => .value
  | .noOperation .. => .attribute
  | .infiniteNumber => .overflow
  | .shortRow _ => .index

/-- The longest quotation of a text that is no numeral. -/
def quotationLimit : Nat := 200

def message [Runtime] : ShapeError → String
  | .missingField key => Text.quoted key
  | .noFields .list => "list indices must be integers or slices, not str"
  | .noFields .text => "string indices must be integers, not 'str'"
  | .noFields kind => "'" ++ kind.name ++ "' object is not subscriptable"
  | .noItems kind => "'" ++ kind.name ++ "' object is not iterable"
  | .noOperation kind operation => "'" ++ kind.name ++ "' object has no attribute '" ++ operation ++ "'"
  | .notText kind => "expected string or bytes-like object, got '" ++ kind.name ++ "'"
  | .notNumber kind =>
    "int() argument must be a string, a bytes-like object or a real number, not '" ++ kind.name ++ "'"
  | .notNumeral text =>
    "invalid literal for int() with base 10: "
      ++ String.ofList ((Text.quoted text).toList.take quotationLimit)
  | .numeralTooLong digits => Json.tooLongMessage digits
  | .nanNumber => "cannot convert float NaN to integer"
  | .infiniteNumber => "cannot convert float infinity to integer"
  | .shortRow fetched => (if fetched then "tuple" else "list") ++ " index out of range"
  | .wrongCode value => "unexpected errCode " ++ value.shown
  | .notTables => "expected a list of tables"
  | .notTable entry => "table entry must be an object, got " ++ entry.shown
  | .unwritable => "Out of range float values are not JSON compliant"
  | .unencodable => "surrogates not allowed"

end ShapeError

namespace Json

/-- The fields of an object, or the complaint of an operation on a value that has none. -/
def fieldsFor (operation : String) : Json → Except ShapeError Fields
  | .object fields => .ok fields
  | j => .error (.noOperation j.kind operation)

def field (key : String) : Json → Except ShapeError Json
  | .object fields =>
    match fields.lookup key with
    | some value => .ok value
    | none => .error (.missingField key)
  | j => .error (.noFields j.kind)

/-- The items of a value: of a list its items, of a text its characters, of an object its names. -/
def items : Json → Except ShapeError (List Json)
  | .array items => .ok items
  | .string s => .ok (s.toList.map fun c => .string (String.singleton c))
  | .object fields => .ok (fields.map fun p => .string p.1)
  | j => .error (.noItems j.kind)

/-- The items of a value, none if it counts as absent. -/
def itemsOrNone (j : Json) : Except ShapeError (List Json) :=
  if j.isTruthy then j.items else .ok []

def wholeOfText (s : String) : Except ShapeError Int :=
  match Number.readInteger s with
  | .ok n => .ok n
  | .error .notNumeral => .error (.notNumeral s)
  | .error (.tooLong digits) => .error (.numeralTooLong digits)

/-- The whole number of a double, its places dropped. -/
def wholeOfDouble : Double → Except ShapeError Int
  | .nan => .error .nanNumber
  | .infinite _ => .error .infiniteNumber
  | x => .ok (x.truncate?.getD 0)

def toWhole : Json → Except ShapeError Int
  | .number (.whole n) => .ok n
  | .number (.real x) => wholeOfDouble x
  | .bool b => .ok (if b then 1 else 0)
  | .string s => wholeOfText s
  | j => .error (.notNumber j.kind)

/-- The upper-case form of a text; other values have none. -/
def upper : Json → Except ShapeError String
  | .string s => .ok (Text.upper s)
  | j => .error (.noOperation j.kind "upper")

/-- The lower-case form of a text; other values have none. -/
def lower : Json → Except ShapeError String
  | .string s => .ok (Text.lower s)
  | j => .error (.noOperation j.kind "lower")

end Json

end SinkKeeper
