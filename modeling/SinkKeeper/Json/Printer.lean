import SinkKeeper.Json.Basic
import SinkKeeper.Text.Quoted
import SinkKeeper.Text.Search

/-!
# Writing documents

A document as JSON text, on one line.
-/

namespace SinkKeeper.Json

section

variable [Runtime]

/-- The gaps after an item and after a field's name, and whether everything but printable ASCII is escaped. -/
structure Layout where
  itemGap : String
  nameGap : String
  asciiOnly : Bool

def Layout.spaced : Layout := ⟨", ", ": ", true⟩

def Layout.compact : Layout := ⟨",", ":", false⟩

/-- A code point below U+10000, escaped. -/
def escapedUnit (n : Nat) : List Char := '\x5c' :: 'u' :: Text.hexDigits 4 n

/-- A character inside a JSON string; one from U+10000 on is escaped as a pair of units, a half as what it is. -/
def writtenChar (asciiOnly : Bool) (c : Char) : List Char :=
  let n := (Runtime.half? c).getD c.toNat
  if c = '\x22' ∨ c = '\x5c' then ['\x5c', c]
  else if c = '\n' then ['\x5c', 'n']
  else if c = '\r' then ['\x5c', 'r']
  else if c = '\t' then ['\x5c', 't']
  else if n = 8 then ['\x5c', 'b']
  else if n = 12 then ['\x5c', 'f']
  else if n < 32 then escapedUnit n
  else if !asciiOnly || n < 127 then [c]
  else if n < 0x10000 then escapedUnit n
  else escapedUnit (0xD800 + (n - 0x10000) / 0x400) ++ escapedUnit (0xDC00 + (n - 0x10000) % 0x400)

def writtenString (asciiOnly : Bool) (s : String) : String :=
  String.ofList ('\x22' :: (s.toList.flatMap (writtenChar asciiOnly) ++ ['\x22']))

/-- A JSON number; the doubles that are no numbers have names. -/
def writtenNumber : Number.Numeral → String
  | .real .nan => "NaN"
  | .real (.infinite negative) => if negative then "-Infinity" else "Infinity"
  | n => n.write

mutual
def render (layout : Layout) : Json → String
  | .null => "null"
  | .bool true => "true"
  | .bool false => "false"
  | .number n => writtenNumber n
  | .string s => writtenString layout.asciiOnly s
  | .array items => "[" ++ Text.join layout.itemGap (renderItems layout items) ++ "]"
  | .object fields => "\x7b" ++ Text.join layout.itemGap (renderFields layout fields) ++ "\x7d"

def renderItems (layout : Layout) : List Json → List String
  | [] => []
  | item :: rest => render layout item :: renderItems layout rest

def renderFields (layout : Layout) : List (String × Json) → List String
  | [] => []
  | (key, value) :: rest =>
    (writtenString layout.asciiOnly key ++ layout.nameGap ++ render layout value) :: renderFields layout rest
end

mutual
/-- Whether every number of a document is finite, so that strict readers accept its text. -/
def isFinite : Json → Bool
  | .number (.real (.finite ..)) => true
  | .number (.real _) => false
  | .array items => areFinite items
  | .object fields => areFieldsFinite fields
  | _ => true

def areFinite : List Json → Bool
  | [] => true
  | item :: rest => isFinite item && areFinite rest

def areFieldsFinite : List (String × Json) → Bool
  | [] => true
  | (_, value) :: rest => isFinite value && areFieldsFinite rest
end

mutual
/-- Whether every text of a document has bytes, names included. -/
def isEncodable : Json → Bool
  | .string s => Text.isEncodable s
  | .array items => areEncodable items
  | .object fields => areFieldsEncodable fields
  | _ => true

def areEncodable : List Json → Bool
  | [] => true
  | item :: rest => isEncodable item && areEncodable rest

def areFieldsEncodable : List (String × Json) → Bool
  | [] => true
  | (key, value) :: rest => Text.isEncodable key && isEncodable value && areFieldsEncodable rest
end

end

mutual
@[simp] theorem isEncodable_plain : ∀ j : Json, j.isEncodable = true
  | .string s => Text.isEncodable_plain s
  | .array items => areEncodable_plain items
  | .object fields => areFieldsEncodable_plain fields
  | .null | .bool _ | .number _ => rfl

theorem areEncodable_plain : ∀ items : List Json, areEncodable items = true
  | [] => rfl
  | item :: rest => by rw [areEncodable, isEncodable_plain item, areEncodable_plain rest, Bool.and_true]

theorem areFieldsEncodable_plain : ∀ fields : List (String × Json), areFieldsEncodable fields = true
  | [] => rfl
  | (key, value) :: rest => by
      rw [areFieldsEncodable, Text.isEncodable_plain, isEncodable_plain value, areFieldsEncodable_plain rest]
      rfl
end

end SinkKeeper.Json
