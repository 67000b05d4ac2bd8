/-!
# Double-precision numbers

A double is its 64 bits in the IEEE 754 binary64 format.  Two doubles are the same exactly when
their bits agree, so the two zeros differ and every NaN payload is a value of its own; the
numerical comparison is `Double.equals`.  All arithmetic is exact arithmetic on the integers that
the bits stand for.
-/

namespace Custody

/-- A binary64 number, by its bits. -/
structure Double where
  bits : UInt64
  deriving DecidableEq, Repr, Inhabited

namespace Double

/-- Whether the sign bit is set. -/
def isNegative (x : Double) : Bool :=
  1 <<< 63 ≤ x.bits.toNat

/-- The exponent field. -/
def exponentField (x : Double) : Nat :=
  (x.bits.toNat >>> 52) % (1 <<< 11)

/-- The fraction field. -/
def fractionField (x : Double) : Nat :=
  x.bits.toNat % (1 <<< 52)

/-- Whether the number is neither infinite nor NaN. -/
def isFinite (x : Double) : Bool :=
  x.exponentField ≠ 0x7FF

/-- Whether the bits encode no number. -/
def isNaN (x : Double) : Bool :=
  x.exponentField = 0x7FF ∧ x.fractionField ≠ 0

/-- Whether the number is one of the two zeros. -/
def isZero (x : Double) : Bool :=
  x.bits.toNat % (1 <<< 63) = 0

/-- The significand of a finite double: its magnitude is `significand * 2 ^ scale`. -/
def significand (x : Double) : Nat :=
  if x.exponentField = 0 then x.fractionField else 1 <<< 52 + x.fractionField

/-- The power of two that scales the significand. -/
def scale (x : Double) : Int :=
  if x.exponentField = 0 then -1074 else (x.exponentField : Int) - 1075

/-- Numerical equality: NaN equals nothing, and the two zeros are equal. -/
def equals (x y : Double) : Bool :=
  !x.isNaN && !y.isNaN && (x.bits == y.bits || (x.isZero && y.isZero))

/-- Positive or negative infinity. -/
def infinity (negative : Bool) : Double :=
  ⟨if negative then 0xFFF0000000000000 else 0x7FF0000000000000⟩

/-- The NaN that reading the word "nan" gives. -/
def nan (negative : Bool) : Double :=
  ⟨if negative then 0xFFF8000000000000 else 0x7FF8000000000000⟩

/-- Positive or negative zero. -/
def zero (negative : Bool) : Double :=
  ⟨if negative then 0x8000000000000000 else 0⟩

/-- The number one. -/
def one : Double := ⟨0x3FF0000000000000⟩

/-- The magnitude of a finite double as a ratio. -/
def ratio (x : Double) : Nat × Nat :=
  if 0 ≤ x.scale then (x.significand <<< x.scale.toNat, 1)
  else (x.significand, 1 <<< (-x.scale).toNat)

/-- The integer part of a finite double's magnitude. -/
def wholePart (x : Double) : Nat :=
  x.ratio.1 / x.ratio.2

/-- Whether a finite double is a whole number. -/
def isWhole (x : Double) : Bool :=
  x.ratio.1 % x.ratio.2 = 0

/-- The integer part as a 64-bit integer: values beyond the range go to its nearer end, and NaN
goes to zero. -/
def truncate (x : Double) : Int64 :=
  if x.isNaN then 0
  else if x.isNegative then
    if x.isFinite ∧ x.wholePart ≤ 1 <<< 63 then Int64.ofInt (-x.wholePart) else Int64.minValue
  else
    if x.isFinite ∧ x.wholePart < 1 <<< 63 then Int64.ofInt x.wholePart else Int64.maxValue

end Double

end Custody
