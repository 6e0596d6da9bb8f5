import SinkKeeper.Shape

/-!
# Verdicts

How a topic operation ended: a code, a text and data. Zero is the code of success. Verdicts are written
and read with the field names that masters use.
-/

namespace SinkKeeper.Topic

/-- How a topic operation ended. -/
structure Verdict where
  code : Int
  text : String
  accepted : Bool
  data : Json

namespace Verdict

def success : Verdict := ⟨0, "", true, .null⟩

def refused (text : String) : Verdict := ⟨-1, text, false, .string ""⟩

def toJson (v : Verdict) : Json :=
  .object [("errCode", .int v.code), ("errMsg", .string v.text), ("result", .bool v.accepted), ("data", v.data)]

/-! ## Reading -/

/-- The code of an answer; an answer without one counts as refused. A code that stands for no whole number
is named in the error. -/
def codeOf (fields : Json.Fields) : Except ShapeError Int :=
  let value := (fields.lookup "errCode").getD (.int (-1))
  match value.toWhole with
  | .ok code => .ok code
  | .error e => .error (if e.family = .type ∨ e.family = .value then .wrongCode value else e)

def ofFields [Runtime] (fields : Json.Fields) : Except ShapeError Verdict := do
  let code ← codeOf fields
  return {
    code
    text := ((Json.fieldOrNull fields "errMsg").orElse (.string "")).text
    accepted := code = 0
    data := Json.fieldOrNull fields "data" }

end Verdict

end SinkKeeper.Topic
