import Custody.Double.Basic

/-!
# Shortest decimal digits

The decimal with the fewest digits that reads back as a given double; of several, the nearest to
it.  The decimals that read back are those of the rounding interval of the double, whose ends
belong to it exactly when the significand is even.
-/

namespace Custody.Double

/-- Which of two equally near decimals is taken. -/
inductive Tie
  | up
  | toEven
  deriving DecidableEq, Repr

/-- A decimal number `coefficient * 10 ^ exponent`. -/
structure Decimal where
  coefficient : Nat
  exponent : Int
  deriving DecidableEq, Repr

/-- A ratio times a power of ten, as a ratio. -/
def scaleByTen (numerator denominator : Nat) (exponent : Int) : Nat × Nat :=
  if 0 ≤ exponent then (numerator * Nat.pow 10 exponent.toNat, denominator)
  else (numerator, denominator * Nat.pow 10 (-exponent).toNat)

/-- The rounding interval of a finite double, as numerators over the denominator
`4 * ratio.2`: its lower end, the double itself, and its upper end.  Below a power of two the
doubles lie twice as close. -/
def interval (x : Double) : Nat × Nat × Nat :=
  let unit := if 0 ≤ x.scale then 1 <<< x.scale.toNat else 1
  let below := if x.fractionField = 0 ∧ 1 < x.exponentField then 1 else 2
  let value := 4 * x.ratio.1
  (value - below * unit, value, value + 2 * unit)

/-- The number of decimal digits before the point of a positive ratio; zero or negative when the
ratio is below one tenth. -/
def digitsBeforePoint (numerator denominator : Nat) : Int :=
  let whole := numerator / denominator
  if whole ≠ 0 then (Nat.toDigits 10 whole).length
  else
    -- `denominator / numerator` is above one, and its digit count is off by at most one
    let guess := (Nat.toDigits 10 (denominator / numerator)).length
    if denominator ≤ numerator * Nat.pow 10 (guess - 1) then 2 - guess else 1 - guess

/-- The better of the two neighbours of a positive double among the decimals that are multiples
of a power of ten, if one of them lies in the rounding interval. -/
def onGrid? (tie : Tie) (x : Double) (exponent : Int) : Option Decimal :=
  let (low, value, high) := x.interval
  let denominator := 4 * x.ratio.2
  let (dividend, divisor) := scaleByTen value denominator (-exponent)
  let floor := dividend / divisor
  let inside (candidate : Nat) : Bool :=
    let (point, unit) := scaleByTen candidate 1 exponent
    let point := point * denominator
    if x.significand % 2 = 0 then low * unit ≤ point ∧ point ≤ high * unit
    else low * unit < point ∧ point < high * unit
  let twice := 2 * (dividend % divisor)
  let preferFloor :=
    twice < divisor || (twice = divisor && tie = .toEven && floor % 2 = 0)
  match inside floor, inside (floor + 1) with
  | true, true => some ⟨if preferFloor then floor else floor + 1, exponent⟩
  | true, false => some ⟨floor, exponent⟩
  | false, true => some ⟨floor + 1, exponent⟩
  | false, false => none

/-- Move the trailing zeros of a coefficient into its exponent.  The first argument bounds their
number. -/
def stripZeros : Nat → Decimal → Decimal
  | 0, decimal => decimal
  | bound + 1, decimal =>
    if decimal.coefficient ≠ 0 ∧ decimal.coefficient % 10 = 0 then
      stripZeros bound ⟨decimal.coefficient / 10, decimal.exponent + 1⟩
    else decimal

/-- The shortest decimal of a positive finite double: the first grid with a member of the
rounding interval, from one significant digit to seventeen, which always suffice. -/
def shortest (tie : Tie) (x : Double) : Decimal :=
  let before := digitsBeforePoint x.ratio.1 x.ratio.2
  let found := (List.range 17).findSome? fun count =>
    onGrid? tie x (before - ((count : Nat) + 1 : Nat))
  stripZeros 20 (found.getD ⟨x.ratio.1, 0⟩)

end Custody.Double
