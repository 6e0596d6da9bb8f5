import SinkKeeper.Text.Digit
import SinkKeeper.Text.Search
import SinkKeeper.Text.Utf8

/-!
# Form encoding

Named values as one line of ASCII: names and values are joined by `=`, pairs by `&`, and every byte that
is not plain is written as `%` with two hexadecimal digits, a space as `+`.
-/

namespace SinkKeeper.Text.Form

/-! ## Writing -/

/-- Letters, digits and `_.-~` stand for themselves. -/
def isPlain (b : UInt8) : Bool :=
  let c := Char.ofNat b.toNat
  b.toNat < 128 && (c.isAlphanum || c = '_' || c = '.' || c = '-' || c = '~')

def upperHexDigit (n : Nat) : Char := (Nat.digitChar n).toUpper

def encodeByte (b : UInt8) : List Char :=
  if isPlain b then [Char.ofNat b.toNat]
  else if b = 32 then ['+']
  else ['%', upperHexDigit (b.toNat / 16), upperHexDigit (b.toNat % 16)]

def encode (s : String) : String := String.ofList ((Utf8.encode s.toList).flatMap encodeByte)

def write (pairs : List (String × String)) : String :=
  join "&" (pairs.map fun p => encode p.1 ++ "=" ++ encode p.2)

/-! ## Reading -/

def hexByte? (high low : Char) : Option UInt8 := do
  return ((← hexValue? high) * 16 + (← hexValue? low)).toUInt8

/-- The bytes that escapes and other characters stand for. A `%` without two digits stands for itself. -/
def unescape : List Char → List UInt8
  | '%' :: high :: low :: rest =>
    match hexByte? high low with
    | some b => b :: unescape rest
    | none => 37 :: unescape (high :: low :: rest)
  | c :: rest => Utf8.encodeCode c.toNat ++ unescape rest
  | [] => []

def unescaped (s : String) : String := String.ofList (Utf8.decodeReplacing (unescape s.toList))

def spaced (c : Char) : Char := if c = '+' then ' ' else c

def decode (s : String) : String := unescaped (String.ofList (s.toList.map spaced))

/-- A pair is cut at its first `=`; one without has an empty value. -/
def pairOf (piece : List Char) : String × String :=
  let (name, rest) := cut (· = '=') piece
  (decode (String.ofList name), decode (String.ofList (rest.drop 1)))

/-- The named values of a line. Empty pieces are passed over. -/
def read (line : String) : List (String × String) :=
  ((pieces '&' line.toList).filter (!·.isEmpty)).map pairOf

end SinkKeeper.Text.Form
