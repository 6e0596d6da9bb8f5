import SinkKeeper.Text.Blank
import SinkKeeper.Text.Digit
import SinkKeeper.Number.Double

/-!
# Reading numerals

Whole numbers and doubles from loose text: blanks around them, a sign, digits of any script, and single
underscores between digits.
-/

namespace SinkKeeper.Number

open SinkKeeper.Text

/-- The number that digits spell, most significant first. -/
def ofDigits (digits : List Nat) : Nat := digits.foldl (fun n d => 10 * n + d) 0

/-- The longest whole number, in digits, that is read. -/
def digitLimit : Nat := 4300

def underscoresSeparate : List Char → Bool
  | [] => true
  | '_' :: _ => false
  | c :: '_' :: d :: rest =>
    if isDecimalDigit c then isDecimalDigit d && underscoresSeparate (d :: rest) else false
  | [_, '_'] => false
  | _ :: rest => underscoresSeparate rest

def cutSign : List Char → Bool × List Char
  | '-' :: rest => (true, rest)
  | '+' :: rest => (false, rest)
  | cs => (false, cs)

/-! ## Whole numbers -/

/-- Why a text is no whole number. -/
inductive IntegerFlaw
  | notNumeral
  | tooLong (digits : Nat)
deriving DecidableEq, Repr

/-- Reads a whole number. Of two flaws, too many digits is told before anything that follows the digits. -/
def readInteger (s : String) : Except IntegerFlaw Int :=
  let (negative, body) := cutSign (s.toList.dropWhile isNumeralBlank)
  let inRun (c : Char) := c = '_' || isDecimalDigit c
  let run := body.takeWhile inRun
  let digits := run.filterMap digitValue?
  if digits.isEmpty || !underscoresSeparate run then .error .notNumeral
  else if digitLimit < digits.length then .error (.tooLong digits.length)
  else if !(body.dropWhile inRun).all isNumeralBlank then .error .notNumeral
  else .ok (if negative then -(ofDigits digits : Int) else ofDigits digits)

/-! ## Doubles -/

/-- The words for infinity and NaN, compared in lower case. -/
def namedDouble? (negative : Bool) (word : List Char) : Option Double :=
  if word = ['i', 'n', 'f'] ∨ word = ['i', 'n', 'f', 'i', 'n', 'i', 't', 'y'] then some (.infinite negative)
  else if word = ['n', 'a', 'n'] then some .nan
  else none

/-- A decimal exponent: a sign and at least one digit, to the end of the text. -/
def readExponent? (cs : List Char) : Option Int :=
  let (negative, digits) := cutSign cs
  if digits.isEmpty || !digits.all isDecimalDigit then none
  else
    let n := ofDigits (digits.filterMap digitValue?)
    some (if negative then -(n : Int) else n)

/-- Whole digits, an optional point with further digits, an optional exponent. -/
def readDecimal? (negative : Bool) (cs : List Char) : Option Double :=
  let whole := cs.takeWhile isDecimalDigit
  let (places, rest) := match cs.dropWhile isDecimalDigit with
    | '.' :: rest => (rest.takeWhile isDecimalDigit, rest.dropWhile isDecimalDigit)
    | rest => ([], rest)
  let digits := (whole ++ places).filterMap digitValue?
  if digits.isEmpty then none
  else
    match rest with
    | [] => some (.ofDecimal negative (ofDigits digits) (-places.length))
    | 'e' :: power | 'E' :: power =>
      (readExponent? power).map fun e => .ofDecimal negative (ofDigits digits) (e - places.length)
    | _ => none

def readDouble? (s : String) : Option Double :=
  let cs := trimWith isNumeralBlank s.toList
  let (negative, body) := cutSign (cs.filter (· ≠ '_'))
  if cs.contains '_' && !underscoresSeparate cs then none
  else (namedDouble? negative (body.map Char.toLower)).or (readDecimal? negative body)

end SinkKeeper.Number
