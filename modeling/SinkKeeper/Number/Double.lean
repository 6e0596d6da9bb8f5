/-!
# Double-precision numbers

The numbers of the 64-bit binary format, each held exactly as a whole number times a power of two.
Arithmetic is done on fractions and rounded once, to the nearest number, a tie to the even one.
-/

namespace SinkKeeper.Number

/-- A finite number is `mantissa * 2 ^ exponent`, with the sign kept also for zero. -/
inductive Double
  | finite (negative : Bool) (mantissa : Nat) (exponent : Int)
  | infinite (negative : Bool)
  | nan
deriving DecidableEq, Repr

def leastExponent : Int := -1074

def greatestExponent : Int := 971

/-- One more than the greatest mantissa. -/
def mantissaBound : Nat := Nat.pow 2 53

/-- A quotient rounded to a whole number, a tie going to the even one. -/
def roundedQuotient (num den : Nat) : Nat :=
  let q := num / den
  let r := 2 * (num % den)
  if r < den then q else if den < r then q + 1 else if q % 2 = 0 then q else q + 1

/-- A fraction divided by a power of two, as a fraction. -/
def scaleDown (num den : Nat) (e : Int) : Nat × Nat :=
  if 0 ≤ e then (num, den * Nat.pow 2 e.toNat) else (num * Nat.pow 2 (-e).toNat, den)

namespace Double

def zero (negative : Bool) : Double := .finite negative 0 leastExponent

/-- A mantissa and an exponent as a number of the format: a carry moves up, too large a number is infinite. -/
def packed (negative : Bool) (mantissa : Nat) (exponent : Int) : Double :=
  let (m, e) := if mantissa = mantissaBound then (Nat.pow 2 52, exponent + 1) else (mantissa, exponent)
  if greatestExponent < e then .infinite negative else .finite negative m e

/-- The number nearest to the fraction `num / den`. -/
def ofRatio (negative : Bool) (num den : Nat) : Double :=
  if num = 0 then zero negative
  else
    let low := max leastExponent ((num.log2 : Int) - den.log2 - 53)
    let (n, d) := scaleDown num den low
    if n / d < mantissaBound then packed negative (roundedQuotient n d) low
    else
      let (n, d) := scaleDown num den (low + 1)
      packed negative (roundedQuotient n d) (low + 1)

/-- The number nearest to `digits * 10 ^ exponent`. Far outside the range of the format only the order of
magnitude counts. -/
def ofDecimal (negative : Bool) (digits : Nat) (exponent : Int) : Double :=
  if digits = 0 then zero negative
  else
    let order := ((Nat.toDigits 10 digits).length : Int) + exponent
    if 400 < order then .infinite negative
    else if order < -400 then zero negative
    else if 0 ≤ exponent then ofRatio negative (digits * Nat.pow 10 exponent.toNat) 1
    else ofRatio negative digits (Nat.pow 10 (-exponent).toNat)

def ofInt (n : Int) : Double := ofRatio (n < 0) n.natAbs 1

def magnitude (mantissa : Nat) (exponent : Int) : Nat × Nat :=
  if 0 ≤ exponent then (mantissa * Nat.pow 2 exponent.toNat, 1) else (mantissa, Nat.pow 2 (-exponent).toNat)

def scaleBy (k : Nat) : Double → Double
  | .finite negative m e =>
    let (n, d) := magnitude m e
    ofRatio negative (n * k) d
  | x => x

def divideBy (k : Nat) : Double → Double
  | .finite negative m e =>
    let (n, d) := magnitude m e
    ofRatio negative n (d * k)
  | x => x

/-- The whole part of a finite number, towards zero. -/
def truncate? : Double → Option Int
  | .finite negative m e =>
    let (n, d) := magnitude m e
    some (if negative then -((n / d : Nat) : Int) else (n / d : Nat))
  | _ => none

def isZero : Double → Bool
  | .finite _ m _ => m == 0
  | _ => false

/-! ## Order -/

/-- A finite number or an infinity as a signed fraction. The infinities lie beyond every number of the
format. -/
def signedRatio? : Double → Option (Int × Nat)
  | .finite negative m e =>
    let (n, d) := magnitude m e
    some (if negative then -(n : Int) else n, d)
  | .infinite negative => some (if negative then -(Nat.pow 2 1100 : Int) else Nat.pow 2 1100, 1)
  | .nan => none

/-- Strictly less; nothing is less or greater than a NaN. -/
def less (x y : Double) : Bool :=
  match x.signedRatio?, y.signedRatio? with
  | some (a, b), some (c, d) => a * d < c * b
  | _, _ => false

def isPositive : Double → Bool
  | .finite negative m _ => !negative && m != 0
  | .infinite negative => !negative
  | .nan => false

end Double

end SinkKeeper.Number
