import SinkKeeper.Entries
import SinkKeeper.Number.Written

/-!
# Documents

A JSON document as a value. The fields of an object stand in the order in which their names first came.
-/

namespace SinkKeeper

open Number (Numeral)

/-- A JSON document. -/
inductive Json
  | null
  | bool (b : Bool)
  | number (n : Numeral)
  | string (s : String)
  | array (items : List Json)
  | object (fields : List (String × Json))

namespace Json

abbrev Fields := List (String × Json)

def int (n : Int) : Json := .number (.whole n)

/-- A text that may be absent; absence is null. -/
def optional : Option String → Json
  | some s => .string s
  | none => .null

instance : Inhabited Json := ⟨.null⟩

/-! ## Kinds -/

/-- The kinds of document that messages tell apart. -/
inductive Kind
  | null
  | bool
  | whole
  | real
  | text
  | list
  | object
deriving DecidableEq, Repr

def kind : Json → Kind
  | .null => .null
  | .bool _ => .bool
  | .number (.whole _) => .whole
  | .number (.real _) => .real
  | .string _ => .text
  | .array _ => .list
  | .object _ => .object

def Kind.name : Kind → String
  | .null => "NoneType"
  | .bool => "bool"
  | .whole => "int"
  | .real => "float"
  | .text => "str"
  | .list => "list"
  | .object => "dict"

/-- Null, false, zero and everything empty count as absent where a field is optional. -/
def isTruthy : Json → Bool
  | .null => false
  | .bool b => b
  | .number n => !n.isZero
  | .string s => s != ""
  | .array items => !items.isEmpty
  | .object fields => !fields.isEmpty

def isNull : Json → Bool
  | .null => true
  | _ => false

/-- The document, or another one where it counts as absent. -/
def orElse (j other : Json) : Json := if j.isTruthy then j else other

/-! ## Fields -/

/-- The value of a field, null if it is not there. -/
def fieldOrNull (fields : Fields) (key : String) : Json := (fields.lookup key).getD .null

end Json

end SinkKeeper
