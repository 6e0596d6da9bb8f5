import SinkKeeper.Dialect.Basic
import SinkKeeper.Text.Digit
import SinkKeeper.Text.Search

/-!
# Arguments

What the words of a command line ask for. Options have long names that may be shortened as long as they
stay unambiguous; their values follow as the next word or after an equals sign.
-/

namespace SinkKeeper.CommandLine

/-! ## Options -/

/-- The options. -/
inductive Flag
  | help
  | engine
  | url
  | user
  | passwordVariable
  | database
deriving DecidableEq, Repr

namespace Flag

def all : List Flag := [.help, .engine, .url, .user, .passwordVariable, .database]

def name : Flag → String
  | .help => "--help"
  | .engine => "--engine"
  | .url => "--url"
  | .user => "--user"
  | .passwordVariable => "--password-env"
  | .database => "--database"

/-- The options whose names begin with a text. -/
def beginning (start : String) : List Flag := all.filter fun f => Text.startsWith f.name start

end Flag

/-! ## Words -/

/-- What a word is before the words around it are looked at. -/
inductive Word
  | plain (text : String)
  | option (flag : Flag) (attached : Option String)
  | shortHelp (understood : Bool)
  | separator
  | stranger
  | ambiguous

/-- A word that begins with a hyphen and is a number. A line feed at its end does not count. -/
def isNegativeNumeral (body : List Char) : Bool :=
  let (whole, rest) := Text.cut (· = '.') (Text.withoutLastFeed body)
  let places := rest.drop 1
  whole.all Text.isDecimalDigit
    && if rest.isEmpty then !whole.isEmpty else !places.isEmpty && places.all Text.isDecimalDigit

/-- A word with a hyphen that names no option: a number or a text with a space is a value all the same. -/
def otherWord (text : String) : Word :=
  if isNegativeNumeral (text.toList.drop 1) || text.toList.contains ' ' then .plain text else .stranger

/-- The text before the first equals sign and the text after it, if there is one. -/
def cutValue (text : String) : String × Option String :=
  match Text.cut (· = '=') text.toList with
  | (name, []) => (String.ofList name, none)
  | (name, _ :: value) => (String.ofList name, some (String.ofList value))

def longWord (text : String) : Word :=
  let (name, attached) := cutValue text
  match Flag.all.find? (·.name == text), Flag.all.find? (·.name == name), Flag.beginning name with
  | some flag, _, _ => .option flag none
  | none, some flag, _ => .option flag attached
  | none, none, [flag] => .option flag attached
  | none, none, [] => otherWord text
  | none, none, _ => .ambiguous

/-- Whether what is attached to the short name of help lets it be understood: help takes no value, but its
name may be repeated, also after an equals sign. -/
def asksHelp (attached : List Char) : Bool :=
  let names := if attached.head? = some '=' then attached.drop 1 else attached
  !names.isEmpty && names.all (· = 'h')

def Word.of (text : String) : Word :=
  match text.toList with
  | ['-', 'h'] => .option .help none
  | '-' :: '-' :: _ => longWord text
  | '-' :: 'h' :: rest => .shortHelp (asksHelp rest)
  | ['-'] => .plain text
  | '-' :: _ => otherWord text
  | _ => .plain text

/-- Reads words; after the separator no word is an option. -/
def wordsOf : List String → List Word
  | [] => []
  | text :: rest => if text = "--" then .separator :: rest.map .plain else Word.of text :: wordsOf rest

/-! ## Requests -/

/-- What a command line asks for. -/
structure Request where
  engine : Dialect
  url : String
  user : String
  passwordVariable : String
  database : Option String
  schema : String

/-- Why a command line asks for nothing. -/
inductive Refusal
  | help
  | misuse
deriving DecidableEq, Repr

/-- The options and the path read so far, and whether words were left over. -/
structure Draft where
  engine : Option Dialect
  url : Option String
  user : Option String
  passwordVariable : Option String
  database : Option String
  schema : Option String
  leftOver : Bool

namespace Draft

def empty : Draft := ⟨none, none, none, none, none, none, false⟩

/-- Gives an option its value. Only known engines can be named. -/
def setFlag (d : Draft) (flag : Flag) (value : String) : Except Refusal Draft :=
  match flag with
  | .help => .error .misuse
  | .engine =>
    match Dialect.all.find? (·.name == value) with
    | some engine => .ok { d with engine := some engine }
    | none => .error .misuse
  | .url => .ok { d with url := some value }
  | .user => .ok { d with user := some value }
  | .passwordVariable => .ok { d with passwordVariable := some value }
  | .database => .ok { d with database := some value }

/-- Takes a word that is no option: the first is the path, all others are left over. -/
def addPlain (d : Draft) (text : String) : Draft :=
  if d.schema.isSome then { d with leftOver := true } else { d with schema := some text }

def defaultPasswordVariable : String := "SINK_PASSWORD"

/-- The request of a draft, if nothing is missing and nothing left over. -/
def request (d : Draft) : Except Refusal Request :=
  match d.engine, d.url, d.user, d.schema, d.leftOver with
  | some engine, some url, some user, some schema, false =>
    .ok ⟨engine, url, user, d.passwordVariable.getD defaultPasswordVariable, d.database, schema⟩
  | _, _, _, _, _ => .error .misuse

end Draft

/-! ## Reading -/

/-- Reads words in order. Help ends the reading where it stands. A separator belongs to the word before it,
or else to the path after it. -/
def readWords (d : Draft) : List Word → Except Refusal Draft
  | [] => .ok d
  | .plain text :: .separator :: rest => readWords (d.addPlain text) rest
  | .plain text :: rest => readWords (d.addPlain text) rest
  | .separator :: rest => readWords { d with leftOver := d.leftOver || d.schema.isSome } rest
  | .option .help none :: _ => .error .help
  | .option flag (some value) :: rest => do
    let d ← d.setFlag flag value
    readWords d rest
  | .option flag none :: .plain value :: rest => do
    let d ← d.setFlag flag value
    readWords d rest
  | .option _ none :: _ => .error .misuse
  | .shortHelp understood :: _ => .error (if understood then .help else .misuse)
  | .stranger :: rest => readWords { d with leftOver := true } rest
  | .ambiguous :: _ => .error .misuse

/-- What a command line asks for. An ambiguous option is refused before any other word counts. -/
def read (texts : List String) : Except Refusal Request := do
  let words := wordsOf texts
  if words.any (· matches .ambiguous) then throw .misuse
  let draft ← readWords .empty words
  draft.request

end SinkKeeper.CommandLine
