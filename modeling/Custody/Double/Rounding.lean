import Custody.Double.Basic

/-!
# Rounding to a double

Every operation that yields a double computes an exact ratio and rounds it once: to the nearest
double, and half-way to the one with an even significand.  Ratios past the largest double go to
infinity.
-/

namespace Custody.Double

/-- The quotient rounded to the nearest integer, a half to the even one. -/
def divideToEven (dividend divisor : Nat) : Nat :=
  let quotient := dividend / divisor
  let twice := 2 * (dividend % divisor)
  if twice < divisor then quotient
  else if divisor < twice then quotient + 1
  else if quotient % 2 = 0 then quotient else quotient + 1

/-- The largest power of two that is not above a positive ratio. -/
def floorLog2 (numerator denominator : Nat) : Int :=
  let guess : Int := (numerator.log2 : Int) - denominator.log2
  let reached :=
    if 0 ≤ guess then denominator <<< guess.toNat ≤ numerator
    else denominator ≤ numerator <<< (-guess).toNat
  if reached then guess else guess - 1

/-- The double nearest to a ratio.  The significand is rounded on the grid of the ratio's own
power of two, or on the finest grid there is; the sum of exponent field and significand carries
by itself when rounding reaches the next power. -/
def ofRatio (negative : Bool) (numerator denominator : Nat) : Double :=
  if numerator = 0 then zero negative
  else
    let scale := max (floorLog2 numerator denominator - 52) (-1074)
    let significand :=
      if 0 ≤ scale then divideToEven numerator (denominator <<< scale.toNat)
      else divideToEven (numerator <<< (-scale).toNat) denominator
    let magnitude := (scale + 1074).toNat <<< 52 + significand
    if 0x7FF <<< 52 ≤ magnitude then infinity negative
    else ⟨UInt64.ofNat (if negative then 1 <<< 63 + magnitude else magnitude)⟩

/-- The double nearest to an integer. -/
def ofInt (value : Int) : Double :=
  ofRatio (value < 0) value.natAbs 1

/-- The double nearest to `coefficient * 10 ^ exponent`.  Exponents that put the value outside
every double's range are settled without computing the power. -/
def ofDecimal (negative : Bool) (coefficient : Nat) (exponent : Int) : Double :=
  let size : Int := (Nat.toDigits 10 coefficient).length
  if coefficient = 0 ∨ exponent + size < -400 then zero negative
  else if 400 < exponent + size then infinity negative
  else if 0 ≤ exponent then ofRatio negative (coefficient * Nat.pow 10 exponent.toNat) 1
  else ofRatio negative coefficient (Nat.pow 10 (-exponent).toNat)

/-- The product of two finite doubles. -/
def mul (x y : Double) : Double :=
  ofRatio (x.isNegative != y.isNegative) (x.ratio.1 * y.ratio.1) (x.ratio.2 * y.ratio.2)

/-- The quotient of two finite doubles, the second of which is not zero. -/
def div (x y : Double) : Double :=
  ofRatio (x.isNegative != y.isNegative) (x.ratio.1 * y.ratio.2) (x.ratio.2 * y.ratio.1)

end Custody.Double
