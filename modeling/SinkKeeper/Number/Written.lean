import SinkKeeper.Number.Shortest

/-!
# Numbers as text

A whole number is written with its digits. Any other is written with its shortest decimal: positionally
from `0.0001` up to below `10 ^ 16` and with at least one place, otherwise with an exponent of at least
two digits.
-/

namespace SinkKeeper.Number

/-- A number as it was written: whole, or with a fraction or an exponent. -/
inductive Numeral
  | whole (n : Int)
  | real (x : Double)
deriving DecidableEq, Repr

/-- The digits of a whole number, with its sign. -/
def writeInt (n : Int) : String :=
  if n < 0 then "-" ++ String.ofList (Nat.toDigits 10 n.natAbs) else String.ofList (Nat.toDigits 10 n.natAbs)

/-- The exponent part: a sign and at least two digits. -/
def writeExponent (e : Int) : List Char :=
  let digits := Nat.toDigits 10 e.natAbs
  (if e < 0 then '-' else '+') :: (if digits.length < 2 then '0' :: digits else digits)

/-- Lays digits out, the point standing after `point` of them. -/
def layOut (digits : List Char) (point : Int) : List Char :=
  if -4 < point ∧ point ≤ 16 then
    if point ≤ 0 then '0' :: '.' :: (List.replicate (-point).toNat '0' ++ digits)
    else if digits.length ≤ point.toNat then
      digits ++ List.replicate (point.toNat - digits.length) '0' ++ ['.', '0']
    else digits.take point.toNat ++ '.' :: digits.drop point.toNat
  else
    match digits with
    | [] => []
    | [d] => d :: 'e' :: writeExponent (point - 1)
    | d :: rest => d :: '.' :: (rest ++ 'e' :: writeExponent (point - 1))

/-- The digits of a shortest decimal without zeros at their end, and where the point stands. -/
def Decimal.laidOut (d : Decimal) : List Char :=
  let digits := Nat.toDigits 10 d.digits
  layOut (digits.reverse.dropWhile (· == '0')).reverse (digits.length + d.exponent)

def writeDouble : Double → String
  | .nan => "nan"
  | .infinite negative => if negative then "-inf" else "inf"
  | .finite negative m e =>
    let body := if m = 0 then ['0', '.', '0'] else (shortest m e).laidOut
    String.ofList (if negative then '-' :: body else body)

def Numeral.write : Numeral → String
  | .whole n => writeInt n
  | .real x => writeDouble x

/-! ## Comparing numbers of both kinds -/

def Numeral.isZero : Numeral → Bool
  | .whole n => n == 0
  | .real x => x.isZero

/-- A number that is no NaN as a signed fraction. -/
def Numeral.signedRatio? : Numeral → Option (Int × Nat)
  | .whole n => some (n, 1)
  | .real x => x.signedRatio?

/-- Strictly less, by value. An infinity stands beyond the doubles, and beyond whole numbers of that size
too. -/
def Numeral.less : Numeral → Numeral → Bool
  | .whole _, .real (.infinite negative) => !negative
  | .real (.infinite negative), .whole _ => negative
  | x, y =>
    match x.signedRatio?, y.signedRatio? with
    | some (a, b), some (c, d) => a * d < c * b
    | _, _ => false

/-- The greater of two numbers, the first if neither is greater. -/
def Numeral.max (x y : Numeral) : Numeral := if x.less y then y else x

def Numeral.same (x y : Numeral) : Bool :=
  match x.signedRatio?, y.signedRatio? with
  | some (a, b), some (c, d) => a * d == c * b
  | _, _ => false

end SinkKeeper.Number
