import SinkKeeper.Json.Basic
import SinkKeeper.Number.Reading
import SinkKeeper.Runtime
import SinkKeeper.Text.Search

/-!
# Reading documents

A reader of JSON text that tells what it expected and where. It takes the names `NaN`, `Infinity` and
`-Infinity` for numbers, keeps the last of several fields of one name, and reads whole numbers of at most
`Number.digitLimit` digits. Lists and objects nest as deep as the runtime has room for.
-/

namespace SinkKeeper.Json

open Number (Numeral)
open Text (isHighHalf isLowHalf unitChar)

variable [Runtime]

/-! ## Refusals -/

/-- What the reader missed. -/
inductive Problem
  | value
  | name
  | colon
  | comma
  | extraData
  | unterminated
  | controlCharacter
  | escape
  | unicodeEscape
  | byteOrderMark
  | listRoom
  | objectRoom
deriving DecidableEq, Repr

namespace Problem

def message : Problem → String
  | .value => "Expecting value"
  | .name => "Expecting property name enclosed in double quotes"
  | .colon => "Expecting ':' delimiter"
  | .comma => "Expecting ',' delimiter"
  | .extraData => "Extra data"
  | .unterminated => "Unterminated string starting at"
  | .controlCharacter => "Invalid control character at"
  | .escape => "Invalid \\escape"
  | .unicodeEscape => "Invalid \\uXXXX escape"
  | .byteOrderMark => "Unexpected UTF-8 BOM (decode using utf-8-sig)"
  | .listRoom => "maximum recursion depth exceeded while decoding a JSON array from a unicode string"
  | .objectRoom => "maximum recursion depth exceeded while decoding a JSON object from a unicode string"

/-- Whether the reader missed room for another level, which is not the fault of the text. -/
def isRoom (problem : Problem) : Bool := problem = .listRoom || problem = .objectRoom

end Problem

/-- Why reading stopped: a problem at an offset, or a whole number of too many digits. -/
inductive Halt
  | missed (problem : Problem) (offset : Nat)
  | tooLong (digits : Nat)
deriving DecidableEq, Repr

/-- A place in a text: line and column count from one, the offset from zero. -/
structure Place where
  line : Nat
  column : Nat
  offset : Nat
deriving DecidableEq, Repr

def placeOf (cs : List Char) (offset : Nat) : Place where
  line := (cs.take offset).count '\n' + 1
  column := ((cs.take offset).reverse.takeWhile (· ≠ '\n')).length + 1
  offset := offset

/-- Why a text was not read. -/
inductive ParseError
  | malformed (problem : Problem) (place : Place)
  | numeralTooLong (digits : Nat)
deriving DecidableEq, Repr

/-- The place from which on a text is no document. One that is too deep, or holds a number that is too long, may
be one. -/
def ParseError.place? : ParseError → Option Place
  | .malformed problem place => if problem.isRoom then none else some place
  | .numeralTooLong _ => none

/-- Whether the text is no document. -/
def ParseError.isSyntax (e : ParseError) : Bool := e.place?.isSome

/-! ## Strings -/

/-- The text that is still to be read, and its offset. -/
structure Cursor where
  offset : Nat
  rest : List Char

def hexUnit? (a b c d : Char) : Option Nat := do
  let high := (← Text.hexValue? a) * 16 + (← Text.hexValue? b)
  let low := (← Text.hexValue? c) * 16 + (← Text.hexValue? d)
  return high * 256 + low

def escapedLetter? (c : Char) : Option Char :=
  if c = '\x22' ∨ c = '\x5c' ∨ c = '/' then some c
  else if c = 'n' then some '\n'
  else if c = 't' then some '\t'
  else if c = 'r' then some '\r'
  else if c = 'b' then some '\x08'
  else if c = 'f' then some '\x0c'
  else none

def prepend (c : Char) (read : Except Halt (List Char × Cursor)) : Except Halt (List Char × Cursor) :=
  read.map fun r => (c :: r.1, r.2)

/-- Reads the inside of a string up to its closing quote; `opened` is the offset of the opening quote.
An escape of four digits must not end the text. -/
def stringFrom (opened : Nat) : (offset : Nat) → List Char → Except Halt (List Char × Cursor)
  | _, [] => .error (.missed .unterminated opened)
  | offset, '\x22' :: rest => .ok ([], ⟨offset + 1, rest⟩)
  | _, ['\x5c'] => .error (.missed .unterminated opened)
  | offset, '\x5c' :: 'u' :: a :: b :: c :: d :: '\x5c' :: 'u' :: e :: f :: g :: h :: next :: rest =>
    match hexUnit? a b c d with
    | none => .error (.missed .unicodeEscape (offset + 1))
    | some unit =>
      if isHighHalf unit then
        match hexUnit? e f g h with
        | none => .error (.missed .unicodeEscape (offset + 7))
        | some low =>
          if isLowHalf low then
            prepend (Char.ofNat (0x10000 + (unit - 0xD800) * 0x400 + (low - 0xDC00)))
              (stringFrom opened (offset + 12) (next :: rest))
          else
            prepend (unitChar unit)
              (stringFrom opened (offset + 6) ('\x5c' :: 'u' :: e :: f :: g :: h :: next :: rest))
      else
        prepend (unitChar unit)
          (stringFrom opened (offset + 6) ('\x5c' :: 'u' :: e :: f :: g :: h :: next :: rest))
  | offset, '\x5c' :: 'u' :: a :: b :: c :: d :: next :: rest =>
    match hexUnit? a b c d with
    | none => .error (.missed .unicodeEscape (offset + 1))
    | some unit => prepend (unitChar unit) (stringFrom opened (offset + 6) (next :: rest))
  | offset, '\x5c' :: 'u' :: _ => .error (.missed .unicodeEscape (offset + 1))
  | offset, '\x5c' :: c :: rest =>
    match escapedLetter? c with
    | none => .error (.missed .escape offset)
    | some e => prepend e (stringFrom opened (offset + 2) rest)
  | offset, c :: rest =>
    if c.toNat < 32 then .error (.missed .controlCharacter offset)
    else prepend c (stringFrom opened (offset + 1) rest)

/-! ## Numbers and names -/

/-- The digits of the whole part: a single zero, or digits that do not begin with one. -/
def wholePart : List Char → List Char × List Char
  | '0' :: rest => (['0'], rest)
  | cs => (cs.takeWhile Text.isAsciiDigit, cs.dropWhile Text.isAsciiDigit)

/-- The digits after a point; a point without digits is not taken. -/
def fractionPart : List Char → List Char × List Char
  | '.' :: rest =>
    match rest.takeWhile Text.isAsciiDigit with
    | [] => ([], '.' :: rest)
    | digits => (digits, rest.dropWhile Text.isAsciiDigit)
  | cs => ([], cs)

/-- How many characters the sign of an exponent takes. -/
def signWidth : List Char → Nat
  | '+' :: _ | '-' :: _ => 1
  | _ => 0

/-- The exponent; a letter without digits is not taken. The last number is how many characters were taken. -/
def exponentPart (cs : List Char) : Option (Int × Nat) :=
  match cs with
  | e :: rest =>
    if e = 'e' ∨ e = 'E' then
      let (negative, body) := Number.cutSign rest
      match body.takeWhile Text.isAsciiDigit with
      | [] => none
      | digits =>
        let n : Int := Number.ofDigits (digits.filterMap Text.digitValue?)
        some (if negative then -n else n, 1 + signWidth rest + digits.length)
    else none
  | [] => none

def numberFrom (start : Cursor) : Except Halt (Json × Cursor) :=
  let (negative, unsigned) := match start.rest with
    | '-' :: rest => (true, rest)
    | cs => (false, cs)
  let (whole, afterWhole) := wholePart unsigned
  if whole.isEmpty then .error (.missed .value start.offset)
  else
    let (fraction, afterFraction) := fractionPart afterWhole
    let power := exponentPart afterFraction
    let rest := afterFraction.drop (power.elim 0 (·.2))
    let width := (if negative then 1 else 0) + whole.length
      + (if fraction.isEmpty then 0 else 1 + fraction.length) + power.elim 0 (·.2)
    let next : Cursor := ⟨start.offset + width, rest⟩
    let digits := Number.ofDigits ((whole ++ fraction).filterMap Text.digitValue?)
    if fraction.isEmpty && power.isNone then
      if Number.digitLimit < whole.length then .error (.tooLong whole.length)
      else .ok (.number (.whole (if negative then -(digits : Int) else digits)), next)
    else
      .ok (.number (.real (.ofDecimal negative digits (power.elim 0 (·.1) - fraction.length))), next)

def namedValues : List (String × Json) :=
  [("null", .null), ("true", .bool true), ("false", .bool false), ("NaN", .number (.real .nan)),
    ("Infinity", .number (.real (.infinite false))), ("-Infinity", .number (.real (.infinite true)))]

def named? (start : Cursor) : Option (Json × Cursor) :=
  namedValues.findSome? fun (name, value) =>
    (Text.after? name.toList start.rest).map fun rest => (value, ⟨start.offset + name.length, rest⟩)

/-! ## Values -/

/-- Whether the character may stand between the parts of a document. -/
def isGap (c : Char) : Bool := c = ' ' || c = '\t' || c = '\n' || c = '\r'

def Cursor.skipGaps (cursor : Cursor) : Cursor where
  offset := cursor.offset + (cursor.rest.takeWhile isGap).length
  rest := cursor.rest.dropWhile isGap

/-- The room inside a list or an object, if there is room for it. -/
def roomInside? : (room : Option Nat) → Option (Option Nat)
  | none => some none
  | some 0 => none
  | some (levels + 1) => some (some levels)

mutual
/-- Reads a value in the room that there is. Each level of nesting and each item uses one unit of fuel. -/
def valueFrom : (room : Option Nat) → (fuel : Nat) → Cursor → Except Halt (Json × Cursor)
  | _, 0, start => .error (.missed .value start.offset)
  | room, fuel + 1, start =>
    match start.rest with
    | '\x22' :: rest => do
      let (cs, next) ← stringFrom start.offset (start.offset + 1) rest
      return (.string (String.ofList cs), next)
    | '[' :: rest =>
      match roomInside? room with
      | none => .error (.missed .listRoom start.offset)
      | some room =>
        let inside := Cursor.skipGaps ⟨start.offset + 1, rest⟩
        match inside.rest with
        | ']' :: rest => .ok (.array [], ⟨inside.offset + 1, rest⟩)
        | _ => do
          let (items, next) ← itemsFrom room fuel inside
          return (.array items, next)
    | '{' :: rest =>
      match roomInside? room with
      | none => .error (.missed .objectRoom start.offset)
      | some room =>
        let inside := Cursor.skipGaps ⟨start.offset + 1, rest⟩
        match inside.rest with
        | '}' :: rest => .ok (.object [], ⟨inside.offset + 1, rest⟩)
        | _ => do
          let (pairs, next) ← fieldsFrom room fuel inside
          return (.object (Entries.ofList pairs), next)
    | _ =>
      match named? start with
      | some read => .ok read
      | none => numberFrom start

def itemsFrom : (room : Option Nat) → (fuel : Nat) → Cursor → Except Halt (List Json × Cursor)
  | _, 0, start => .error (.missed .value start.offset)
  | room, fuel + 1, start => do
    let (item, afterItem) ← valueFrom room fuel start
    let next := afterItem.skipGaps
    match next.rest with
    | ']' :: rest => return ([item], ⟨next.offset + 1, rest⟩)
    | ',' :: rest =>
      let (items, last) ← itemsFrom room fuel (Cursor.skipGaps ⟨next.offset + 1, rest⟩)
      return (item :: items, last)
    | _ => .error (.missed .comma next.offset)

def fieldsFrom : (room : Option Nat) → (fuel : Nat) → Cursor → Except Halt (List (String × Json) × Cursor)
  | _, 0, start => .error (.missed .name start.offset)
  | room, fuel + 1, start =>
    match start.rest with
    | '\x22' :: rest => do
      let (key, afterKey) ← stringFrom start.offset (start.offset + 1) rest
      let colon := afterKey.skipGaps
      match colon.rest with
      | ':' :: rest =>
        let (value, afterValue) ← valueFrom room fuel (Cursor.skipGaps ⟨colon.offset + 1, rest⟩)
        let next := afterValue.skipGaps
        match next.rest with
        | '}' :: rest => return ([(String.ofList key, value)], ⟨next.offset + 1, rest⟩)
        | ',' :: rest =>
          let (pairs, last) ← fieldsFrom room fuel (Cursor.skipGaps ⟨next.offset + 1, rest⟩)
          return ((String.ofList key, value) :: pairs, last)
        | _ => .error (.missed .comma next.offset)
      | _ => .error (.missed .colon colon.offset)
    | _ => .error (.missed .name start.offset)
end

/-- Reads a whole text: one value with gaps around it. -/
def documentFrom (cs : List Char) : Except Halt Json := do
  if cs.head? = some '\uFEFF' then throw (.missed .byteOrderMark 0)
  let (value, next) ← valueFrom Runtime.room (2 * cs.length + 2) (Cursor.skipGaps ⟨0, cs⟩)
  let last := next.skipGaps
  if last.rest.isEmpty then return value
  else throw (.missed .extraData last.offset)

def parse (s : String) : Except ParseError Json :=
  match documentFrom s.toList with
  | .ok value => .ok value
  | .error (.missed problem offset) => .error (.malformed problem (placeOf s.toList offset))
  | .error (.tooLong digits) => .error (.numeralTooLong digits)

/-! ## Messages -/

def tooLongMessage (digits : Nat) : String :=
  "Exceeds the limit (" ++ toString Number.digitLimit ++ " digits) for integer string conversion: value has "
    ++ toString digits ++ " digits; use sys.set_int_max_str_digits() to increase the limit"

/-- What was missed and where; where it is room, the place does not count. -/
def ParseError.message : ParseError → String
  | .malformed problem place =>
    if problem.isRoom then problem.message
    else problem.message ++ ": line " ++ toString place.line ++ " column " ++ toString place.column
      ++ " (char " ++ toString place.offset ++ ")"
  | .numeralTooLong digits => tooLongMessage digits

end SinkKeeper.Json
