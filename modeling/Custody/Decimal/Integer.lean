/-!
# Decimal integers

Reading and writing 64-bit integers in decimal.  A numeral is an optional sign and at least one
ASCII digit; leading zeros are allowed, and a value outside the 64-bit range is told apart from a
text that is no numeral.
-/

namespace Custody.Decimal

/-- Why a text is not a 64-bit integer. -/
inductive IntegerFault
  | empty
  | invalidDigit
  | tooLarge
  | tooSmall
  deriving DecidableEq, Repr

/-- The wording of a fault. -/
def IntegerFault.message : IntegerFault → String
  | .empty => "cannot parse integer from empty string"
  | .invalidDigit => "invalid digit found in string"
  | .tooLarge => "number too large to fit in target type"
  | .tooSmall => "number too small to fit in target type"

/-- The value of a run of digits, or `none` when it is empty or holds another character. -/
def natural? (digits : List Char) : Option Nat :=
  if digits ≠ [] ∧ digits.all Char.isDigit then some (Nat.ofDigitChars 10 digits 0) else none

/-- A numeral's sign and the digits after it. -/
def splitSign : List Char → Bool × List Char
  | '-' :: digits => (true, digits)
  | '+' :: digits => (false, digits)
  | digits => (false, digits)

/-- Read a 64-bit integer. -/
def readInt64 (text : List Char) : Except IntegerFault Int64 :=
  if text = [] then .error .empty
  else
    let (negative, digits) := splitSign text
    match natural? digits with
    | none => .error .invalidDigit
    | some magnitude =>
      if negative then
        if magnitude ≤ 1 <<< 63 then .ok (Int64.ofInt (-magnitude)) else .error .tooSmall
      else
        if magnitude < 1 <<< 63 then .ok (Int64.ofInt magnitude) else .error .tooLarge

/-- The decimal text of an integer. -/
def ofInt : Int → List Char
  | .ofNat value => Nat.toDigits 10 value
  | .negSucc value => '-' :: Nat.toDigits 10 (value + 1)

/-- The decimal text of a 64-bit integer. -/
def ofInt64 (value : Int64) : List Char :=
  ofInt value.toInt

theorem isDigit_toDigits (value : Nat) : ∀ c ∈ Nat.toDigits 10 value, c.isDigit = true :=
  fun _ => Nat.isDigit_of_mem_toDigits (by decide) (by decide)

/-- Reading the digits of a number gives the number. -/
@[simp] theorem natural?_toDigits (value : Nat) : natural? (Nat.toDigits 10 value) = some value := by
  have digits : (Nat.toDigits 10 value).all Char.isDigit = true :=
    List.all_eq_true.mpr (isDigit_toDigits value)
  simp [natural?, Nat.toDigits_ne_nil, digits, Nat.ofDigitChars_toDigits]

end Custody.Decimal
