import SinkKeeper.Json.Basic
import SinkKeeper.Text.Quoted
import SinkKeeper.Text.Search

/-!
# Documents in messages

How messages show a value: text inside a value is quoted, a text on its own is itself.
-/

namespace SinkKeeper.Json

variable [Runtime]

mutual
/-- A value as messages show it, a text in quotes. -/
def shown : Json → String
  | .null => "None"
  | .bool true => "True"
  | .bool false => "False"
  | .number n => n.write
  | .string s => Text.quoted s
  | .array items => "[" ++ Text.join ", " (shownItems items) ++ "]"
  | .object fields => "\x7b" ++ Text.join ", " (shownFields fields) ++ "\x7d"

/-- The items of a list, each as messages show it. -/
def shownItems : List Json → List String
  | [] => []
  | item :: rest => item.shown :: shownItems rest

/-- The fields of an object, each with its name in quotes. -/
def shownFields : List (String × Json) → List String
  | [] => []
  | (key, value) :: rest => (Text.quoted key ++ ": " ++ value.shown) :: shownFields rest
end

/-- The text of a value: a text is itself. -/
def text : Json → String
  | .string s => s
  | j => j.shown

def shownTexts (texts : List String) : String :=
  "[" ++ Text.join ", " (texts.map Text.quoted) ++ "]"

@[simp] theorem text_string (s : String) : (Json.string s).text = s := rfl

end SinkKeeper.Json
