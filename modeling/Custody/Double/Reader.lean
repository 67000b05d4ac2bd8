import Custody.Decimal.Integer
import Custody.Double.Rounding

/-!
# Reading doubles

A decimal numeral is an optional sign, digits with at most one point, and an optional exponent;
at least one digit stands before the exponent.  The words "inf", "infinity" and "nan" are read in
any case.  The result is the double nearest to the numeral.
-/

namespace Custody.Double

/-- The digits at the beginning of a text, and what follows them. -/
def splitDigits (text : List Char) : List Char × List Char :=
  (text.takeWhile Char.isDigit, text.dropWhile Char.isDigit)

/-- The value of an exponent part, which is empty or a mark, an optional sign and digits. -/
def readExponent? : List Char → Option Int
  | [] => some 0
  | mark :: rest =>
    if mark = 'e' ∨ mark = 'E' then
      let (negative, digits) := Decimal.splitSign rest
      (Decimal.natural? digits).map fun value => if negative then -(value : Int) else value
    else none

/-- Read an unsigned numeral. -/
def readMagnitude? (negative : Bool) (text : List Char) : Option Double :=
  let (whole, rest) := splitDigits text
  let (fraction, rest) :=
    match rest with
    | '.' :: after => splitDigits after
    | other => ([], other)
  if whole.isEmpty && fraction.isEmpty then none
  else
    (readExponent? rest).map fun exponent =>
      ofDecimal negative (Nat.ofDigitChars 10 (whole ++ fraction) 0) (exponent - fraction.length)

/-- Read a double. -/
def read? (text : List Char) : Option Double :=
  let (negative, body) := Decimal.splitSign text
  let word := body.map Char.toLower
  if word = ['i', 'n', 'f'] ∨ word = ['i', 'n', 'f', 'i', 'n', 'i', 't', 'y'] then
    some (infinity negative)
  else if word = ['n', 'a', 'n'] then some (nan negative)
  else readMagnitude? negative body

end Custody.Double
