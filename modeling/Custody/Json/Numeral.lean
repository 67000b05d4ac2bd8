import Custody.Decimal.Integer
import Custody.Double.Reader
import Custody.Json.Basic

/-!
# Numbers of interchange documents

What a number literal means where an integer, a size or a double is wanted.  A literal with a
point or an exponent is no integer, and neither is negative zero.
-/

namespace Custody.Json

/-- The integer that a literal denotes. -/
def integer? (literal : List Char) : Option Int :=
  match literal with
  | '-' :: digits =>
    match Decimal.natural? digits with
    | some 0 => none
    | some value => some (-(value : Int))
    | none => none
  | digits => (Decimal.natural? digits).map Int.ofNat

/-- A signed 64-bit integer. -/
def int64? : Json → Option Int64
  | .number literal =>
    (integer? literal).bind fun value =>
      if Int64.minValue.toInt ≤ value ∧ value ≤ Int64.maxValue.toInt then some (Int64.ofInt value)
      else none
  | _ => none

/-- A natural number below a bound. -/
def below? (bound : Nat) : Json → Option Nat
  | .number literal =>
    (integer? literal).bind fun value =>
      if 0 ≤ value ∧ value < bound then some value.toNat else none
  | _ => none

/-- A size: a natural number of 64 bits. -/
def size? (json : Json) : Option Nat :=
  json.below? UInt64.size

/-- Digits gathered into a 64-bit significand: the significand, and how many digits it holds.
Gathering stops at the first digit that does not fit. -/
def gatherDigits : List Char → Nat → Nat → Nat × Nat
  | [], significand, count => (significand, count)
  | digit :: rest, significand, count =>
    let next := 10 * significand + (digit.toNat - '0'.toNat)
    if next < UInt64.size then gatherDigits rest next (count + 1) else (significand, count)

/-- Scale a double by a power of ten, with one rounding for each factor.  A value past the
largest double has no result.  The first argument bounds the number of factors. -/
def scaleByTen? : Nat → Double → Int → Option Double
  | 0, x, _ => some x
  | factors + 1, x, exponent =>
    if exponent.natAbs ≤ 308 then
      let power := Double.ofDecimal false 1 exponent.natAbs
      if 0 ≤ exponent then
        let product := x.mul power
        if product.isFinite then some product else none
      else some (x.div power)
    else if x.isZero then some x
    else if 0 ≤ exponent then none
    else scaleByTen? factors (x.div (Double.ofDecimal false 1 308)) (exponent + 308)

/-- The double that a literal denotes.  Its leading digits, as many as fit 64 bits, are rounded
to a double, which is then scaled. -/
def doubleOf? (literal : List Char) : Option Double :=
  let (negative, body) := Decimal.splitSign literal
  let (whole, rest) := Double.splitDigits body
  let (fraction, rest) :=
    match rest with
    | '.' :: after => Double.splitDigits after
    | other => ([], other)
  let (significand, wholeCount) := gatherDigits whole 0 0
  let (significand, fractionCount) := gatherDigits fraction significand 0
  let start : Int := (whole.length - wholeCount : Nat) - (fractionCount : Int)
  let signed (x : Double) : Double := ⟨if negative then x.bits ||| 0x8000000000000000 else x.bits⟩
  match Double.readExponent? rest with
  | none => none
  | some exponent =>
    if exponent.natAbs < 1 <<< 31 then
      (scaleByTen? 4 (Double.ofInt significand) (start + exponent)).map signed
    else if 0 ≤ exponent ∧ significand ≠ 0 then none
    else some (signed (Double.zero false))

/-- A double; integers are accepted. -/
def double? : Json → Option Double
  | .number literal => doubleOf? literal
  | _ => none

/-- The document of an integer. -/
def ofInt (value : Int) : Json :=
  .number (Decimal.ofInt value)

/-- The document of a natural number. -/
def ofNat (value : Nat) : Json :=
  .number (Nat.toDigits 10 value)

end Custody.Json
