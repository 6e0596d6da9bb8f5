import SinkKeeper.Entries
import SinkKeeper.Text.Blank
import SinkKeeper.Text.Search

/-!
# Files of settings

A file of settings has a name and a value on each line. Values may be quoted; quoted or not, they may be
followed by a comment. A name without a value sets nothing, and of several settings of one name the last
counts.
-/

namespace SinkKeeper

abbrev Settings := List (String × Option String)

namespace Settings

/-- Whether nothing is left of a line but blanks and a comment. -/
def isLineEnd (cs : List Char) : Bool := (cs.dropWhile Text.isBlank).head?.all (· = '#')

/-! ## Names -/

/-- Steps over the word that marks a setting as one for other programs. -/
def afterExport (cs : List Char) : List Char :=
  match Text.after? "export".toList cs with
  | some (c :: rest) => if Text.isBlank c then rest.dropWhile Text.isBlank else cs
  | _ => cs

def isNameChar (c : Char) : Bool := c != '=' && c != '#' && !Text.isBlank c

/-- Reads a name, which may stand in single quotes. -/
def nameFrom (cs : List Char) : Option (String × List Char) :=
  let (name, rest) := match cs with
    | '\x27' :: quoted => (quoted.takeWhile (· ≠ '\x27'), (quoted.dropWhile (· ≠ '\x27')).tail?)
    | _ => (cs.takeWhile isNameChar, some (cs.dropWhile isNameChar))
  if name.isEmpty then none else rest.map (String.ofList name, ·)

/-! ## Values -/

def singleEscapes : List (Char × Char) := [('\x5c', '\x5c'), ('\x27', '\x27')]

def doubleEscapes : List (Char × Char) :=
  [('\x5c', '\x5c'), ('\x27', '\x27'), ('\x22', '\x22'), ('a', '\x07'), ('b', '\x08'), ('f', '\x0c'),
    ('n', '\n'), ('r', '\r'), ('t', '\t'), ('v', '\x0b')]

/-- The characters that a backslash and the character after it stand for: themselves if they are no escape. -/
def escaped (escapes : List (Char × Char)) (c : Char) : List Char :=
  ((escapes.lookup c).map fun e => [e]).getD ['\x5c', c]

/-- Reads up to the closing quote. A character after a backslash does not close. -/
def quotedFrom (quote : Char) (escapes : List (Char × Char)) : List Char → Option (List Char × List Char)
  | [] => none
  | '\x5c' :: c :: rest => (quotedFrom quote escapes rest).map fun (value, after) =>
      (escaped escapes c ++ value, after)
  | c :: rest =>
    if c = quote then some ([], rest)
    else (quotedFrom quote escapes rest).map fun (value, after) => (c :: value, after)

/-- Cuts off a comment, which starts with `#` after a blank. -/
def withoutComment : List Char → List Char
  | [] => []
  | c :: rest =>
    if Text.isBlank c && (rest.dropWhile Text.isBlank).head? = some '#' then [] else c :: withoutComment rest

/-- The value of a quoted text, after which nothing but a comment may follow. -/
def quotedValue (quote : Char) (escapes : List (Char × Char)) (cs : List Char) : Option String :=
  match quotedFrom quote escapes cs with
  | some (value, after) => if isLineEnd after then some (String.ofList value) else none
  | none => none

def valueOf? (cs : List Char) : Option String :=
  match cs.dropWhile Text.isBlank with
  | '\x27' :: rest => quotedValue '\x27' singleEscapes rest
  | '\x22' :: rest => quotedValue '\x22' doubleEscapes rest
  | _ => some (String.ofList (Text.trimWith Text.isBlank (withoutComment cs)))

/-! ## Lines -/

/-- Reads one line; one that cannot be read sets nothing. -/
def lineOf? (line : List Char) : Option (String × Option String) :=
  match nameFrom (afterExport (line.dropWhile Text.isBlank)) with
  | none => none
  | some (name, rest) =>
    match rest.dropWhile Text.isBlank with
    | '=' :: value => (valueOf? value).map fun text => (name, some text)
    | rest => if isLineEnd rest then some (name, none) else none

/-- The text without the mark of the byte order that may stand before it. -/
def withoutMark : List Char → List Char
  | '\ufeff' :: rest => rest
  | cs => cs

/-- The settings of a text, each name once. -/
def read (text : String) : Settings :=
  Entries.ofList ((Text.pieces '\n' (withoutMark text.toList)).filterMap lineOf?)

/-- The value of a name, if it has one. -/
def valueOf (settings : Settings) (name : String) : Option String := (settings.lookup name).bind id

end Settings

end SinkKeeper
