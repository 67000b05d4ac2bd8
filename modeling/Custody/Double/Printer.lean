import Custody.Double.Shortest

/-!
# Decimal text of doubles

The shortest digits of a double are laid out by a style.  The stream syntax writes every number
positionally; the interchange format changes to an exponent for very large and very small ones.
-/

namespace Custody.Double

/-- How decimal digits are laid out. -/
structure Style where
  /-- The decimal exponents that are written positionally; all of them when absent. -/
  positional : Option (Int × Int)
  /-- Whether a whole number keeps a point and a zero. -/
  pointed : Bool
  /-- Which of two equally near decimals is written. -/
  tie : Tie
  deriving Repr

/-- Every number positionally, whole numbers without a point. -/
def plainStyle : Style := ⟨none, false, .up⟩

/-- Positional from `0.00001` up to sixteen digits before the point, always with a point. -/
def interchangeStyle : Style := ⟨some (-5, 15), true, .toEven⟩

/-- Digits with the decimal point after the first `before` of them. -/
def positionalText (pointed : Bool) (digits : List Char) (before : Int) : List Char :=
  if before ≤ 0 then
    '0' :: '.' :: (List.replicate (-before).toNat '0' ++ digits)
  else if digits.length ≤ before then
    digits ++ List.replicate (before.toNat - digits.length) '0' ++ (if pointed then ['.', '0'] else [])
  else digits.take before.toNat ++ '.' :: digits.drop before.toNat

/-- Digits in scientific form, with a signed exponent. -/
def scientificText (digits : List Char) (exponent : Int) : List Char :=
  let mantissa :=
    match digits with
    | first :: second :: rest => first :: '.' :: second :: rest
    | short => short
  mantissa ++ 'e' :: (if exponent < 0 then '-' else '+') :: Nat.toDigits 10 exponent.natAbs

/-- The text of a finite magnitude. -/
def magnitudeText (style : Style) (x : Double) : List Char :=
  if x.isZero then positionalText style.pointed ['0'] 1
  else
    let decimal := shortest style.tie x
    let digits := Nat.toDigits 10 decimal.coefficient
    let before := digits.length + decimal.exponent
    match style.positional with
    | none => positionalText style.pointed digits before
    | some (least, greatest) =>
      if least ≤ before - 1 ∧ before - 1 ≤ greatest then positionalText style.pointed digits before
      else scientificText digits (before - 1)

/-- A text with a minus sign in front when the double's sign bit is set. -/
def withSign (x : Double) (text : List Char) : List Char :=
  if x.isNegative then '-' :: text else text

/-- The text of a double in a style; infinities and NaN have words of their own. -/
def text (style : Style) (x : Double) : List Char :=
  if x.isNaN then ['N', 'a', 'N']
  else if x.isFinite then x.withSign (x.magnitudeText style)
  else x.withSign ['i', 'n', 'f']

/-- The literal of a double in the stream syntax: whole numbers in full with a point and a zero,
the others by their shortest digits. -/
def literal (x : Double) : List Char :=
  if x.isFinite && x.isWhole then x.withSign (Nat.toDigits 10 x.wholePart ++ ['.', '0'])
  else x.text plainStyle

end Custody.Double
