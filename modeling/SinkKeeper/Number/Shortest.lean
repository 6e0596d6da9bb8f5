import SinkKeeper.Number.Double

/-!
# Shortest decimals

The fewest digits that read back as a given number. A decimal grid is tried for 1, 2, … 17 digits; on each
the two neighbours of the number are tested against the interval of fractions that round to it.
-/

namespace SinkKeeper.Number

/-- The decimal digits of a number of the format: `digits * 10 ^ exponent`. -/
structure Decimal where
  digits : Nat
  exponent : Int
deriving DecidableEq, Repr

/-- The fractions that round to a number, as multiples of a quarter of its last place. -/
structure Interval where
  low : Nat
  value : Nat
  high : Nat
  closed : Bool

/-- The interval of `mantissa * 2 ^ exponent`: half a place above, and half a place below, or a quarter
below where the places halve. The ends belong to it when the mantissa is even. -/
def Interval.of (mantissa : Nat) (exponent : Int) : Interval where
  low := if mantissa = Nat.pow 2 52 ∧ leastExponent < exponent then 4 * mantissa - 1 else 4 * mantissa - 2
  value := 4 * mantissa
  high := 4 * mantissa + 2
  closed := mantissa % 2 = 0

/-- `x * 10 ^ p` and `y * 2 ^ q` as whole numbers over one denominator. -/
def commonScale (x : Nat) (p : Int) (y : Nat) (q : Int) : Nat × Nat :=
  let a := if 0 ≤ p then (x * Nat.pow 10 p.toNat, 1) else (x, Nat.pow 10 (-p).toNat)
  let b := if 0 ≤ q then (y * Nat.pow 2 q.toNat, 1) else (y, Nat.pow 2 (-q).toNat)
  (a.1 * b.2, b.1 * a.2)

/-- Whether the point `t * 10 ^ p` of a decimal grid lies in the interval, whose unit is `2 ^ q`. -/
def Interval.holds (i : Interval) (q : Int) (t : Nat) (p : Int) : Bool :=
  let (x, low) := commonScale t p i.low q
  let (x', high) := commonScale t p i.high q
  if i.closed then low ≤ x && x' ≤ high else low < x && x' < high

/-- The whole part of `mantissa * 2 ^ exponent / 10 ^ p`. -/
def gridFloor (mantissa : Nat) (exponent p : Int) : Nat :=
  let (unit, value) := commonScale 1 p mantissa exponent
  value / unit

/-- The nearer of two neighbouring grid points, the even one of a tie. -/
def nearer (mantissa : Nat) (exponent p : Int) (t : Nat) : Nat :=
  let (below, value) := commonScale (2 * t + 1) p (2 * mantissa) exponent
  if value < below then t else if below < value then t + 1 else if t % 2 = 0 then t else t + 1

/-- The decimal on the grid `10 ^ p` that reads back, if there is one. -/
def onGrid? (mantissa : Nat) (exponent p : Int) : Option Decimal :=
  let i := Interval.of mantissa exponent
  let t := gridFloor mantissa exponent p
  match i.holds (exponent - 2) t p, i.holds (exponent - 2) (t + 1) p with
  | true, true => some ⟨nearer mantissa exponent p t, p⟩
  | true, false => some ⟨t, p⟩
  | false, true => some ⟨t + 1, p⟩
  | false, false => none

/-- Tries the grids of `tried + 1`, `tried + 2`, … digits for a number below `10 ^ order`. -/
def shortestFrom (mantissa : Nat) (exponent order : Int) (tried : Nat) : Nat → Decimal
  -- Seventeen digits always tell a number of the format, so this is not reached from 17.
  | 0 => ⟨gridFloor mantissa exponent (order - 17), order - 17⟩
  | left + 1 =>
    match onGrid? mantissa exponent (order - (tried + 1)) with
    | some d => d
    | none => shortestFrom mantissa exponent order (tried + 1) left

/-- The power of ten just above a positive number: no number of the format is below `10 ^ -400`. -/
def decimalOrder (mantissa : Nat) (exponent : Int) : Int :=
  (Nat.toDigits 10 (gridFloor mantissa exponent (-400))).length - 400

/-- The shortest decimal that reads back as the positive number `mantissa * 2 ^ exponent`. -/
def shortest (mantissa : Nat) (exponent : Int) : Decimal :=
  shortestFrom mantissa exponent (decimalOrder mantissa exponent) 0 17

end SinkKeeper.Number
