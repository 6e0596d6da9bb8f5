import SinkKeeper.Failure
import SinkKeeper.Text.Blank
import SinkKeeper.Text.Search

/-!
# Tokens of statements

Statements are put together as text, so every name, type and expression is checked before it is written,
and every literal is quoted.
-/

namespace SinkKeeper.Sql

/-! ## Character classes -/

def isLetter (c : Char) : Bool := ('a' ≤ c && c ≤ 'z') || ('A' ≤ c && c ≤ 'Z')

/-- A letter, a digit or an underscore. -/
def isWordChar (c : Char) : Bool := isLetter c || Text.isAsciiDigit c || c = '_'

/-- What a type may hold before its parameters. -/
def isTypeHeadChar (c : Char) : Bool := isWordChar c || c = ' '

/-- What a type may hold from its first bracket on. -/
def isTypeParameterChar (c : Char) : Bool :=
  isTypeHeadChar c || [',', '(', ')', '<', '>', ':', '.', '\x27', '=', '+', '/', '-'].contains c

/-- Tokens that end a statement, begin or end a comment, open a quoted name or escape a character. -/
def forbiddenTokens : List (List Char) :=
  [['-', '-'], ['/', '*'], ['*', '/'], [';'], ['\x60'], ['\x5c']]

/-- Whether a forbidden token stands somewhere in the text. -/
def hasForbidden (cs : List Char) : Bool := forbiddenTokens.any (Text.occursIn · cs)

/-- Whether the single quotes of a text can be paired. -/
def quotesPair (cs : List Char) : Bool := cs.count '\x27' % 2 == 0

/-! ## Names -/

def nameLimit : Nat := 128

def isName (cs : List Char) : Bool := !cs.isEmpty && cs.length ≤ nameLimit && cs.all isWordChar

/-- A name that may be written, or the error that shows it. -/
def checkName (kind : String) (name : Json) : Except SinkError String :=
  let refusal := SinkError.refusedToken ("Invalid " ++ kind ++ " name: " ++ name.shown)
  match name with
  | .string s => if isName s.toList then .ok s else .error refusal
  | _ => .error refusal

def quoteName (kind : String) (name : Json) : Except SinkError String :=
  (checkName kind name).map fun s => "`" ++ s ++ "`"

def quoteTable (database table : Json) : Except SinkError String := do
  let d ← quoteName "database" database
  let t ← quoteName "table" table
  return d ++ "." ++ t

/-- Several names between backticks, with commas. -/
def quoteNames (kind : String) (names : List Json) : Except SinkError String :=
  (names.mapM (quoteName kind)).map (Text.join ", ")

/-! ## Types -/

/-- A word, then perhaps parameters that open with a bracket and end with one. -/
def isTypeText : List Char → Bool
  | [] => false
  | c :: rest =>
    isLetter c && match rest.dropWhile isTypeHeadChar with
      | [] => true
      | opening :: body =>
        (opening = '(' || opening = '<') && body.all isTypeParameterChar
          && (body.getLast? == some ')' || body.getLast? == some '>')

def isType (cs : List Char) : Bool :=
  isTypeText (Text.trimWith Text.isBlank cs) && !hasForbidden cs && quotesPair cs

/-- A type that may be written, without blanks around it, or the error that shows it. -/
def checkType (type : Json) : Except SinkError String :=
  let refusal := SinkError.refusedToken ("Invalid column type: " ++ type.shown)
  match type with
  | .string s => if isType s.toList then .ok (Text.strip s) else .error refusal
  | _ => .error refusal

/-! ## Expressions -/

def isExpression (cs : List Char) : Bool :=
  !cs.all Text.isBlank && !hasForbidden cs && quotesPair cs && !cs.any (·.toNat < 32)

/-- An expression that may be written, without blanks around it, or the error that shows it. -/
def checkExpression (kind : String) (expression : Json) : Except SinkError String :=
  let refusal := SinkError.refusedToken ("Invalid " ++ kind ++ ": " ++ expression.shown)
  match expression with
  | .string s => if isExpression s.toList then .ok (Text.strip s) else .error refusal
  | _ => .error refusal

/-! ## Literals -/

/-- A character inside a literal: a quote and a backslash follow a backslash. -/
def literalChar (c : Char) : List Char :=
  if c = '\x27' ∨ c = '\x5c' then ['\x5c', c] else [c]

def quoteLiteral (s : String) : String :=
  String.ofList ('\x27' :: (s.toList.flatMap literalChar ++ ['\x27']))

end SinkKeeper.Sql
