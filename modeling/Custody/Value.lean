import Custody.Decimal.Integer
import Custody.Double.Printer
import Custody.Text.Quoted
import Custody.Vocabulary

/-!
# Literal values and extents

A value is a literal whose content is known while a stream is verified.  An extent names the
region of a container that a borrow, a pop or a peek addresses.  Both print in the syntax of the
textual operation stream.
-/

namespace Custody

/-- A literal known at verification time. -/
inductive Value
  | integer (value : Int64)
  | float (value : Double)
  | string (text : String)
  | bool (value : Bool)
  | bytes (data : List UInt8)
  deriving DecidableEq, Repr, Inhabited

namespace Value

/-- The element type of a literal. -/
def element : Value → Element
  | .integer _ => .integer
  | .float _ => .float
  | .string _ => .string
  | .bool _ => .bool
  | .bytes _ => .bytes

/-- Keys are the same when they are the same literal.  Floats are told apart by their bits, so
that a NaN key can be found again and the two zeros are different keys. -/
def sameKey (left right : Value) : Bool :=
  left == right

/-- Equality of the values: floats compare as numbers. -/
def equals : Value → Value → Bool
  | .float left, .float right => left.equals right
  | left, right => left == right

/-- The two hexadecimal digits of a byte. -/
def byteDigits (byte : UInt8) : List Char :=
  [Nat.digitChar (byte.toNat / 16), Nat.digitChar (byte.toNat % 16)]

/-- The literal in the syntax of the textual stream. -/
def literal : Value → List Char
  | .integer value => Decimal.ofInt64 value
  | .float value => value.literal
  | .string text => Text.Quoted.encode text.toList
  | .bool value => if value then ['t', 'r', 'u', 'e'] else ['f', 'a', 'l', 's', 'e']
  | .bytes data => '0' :: 'x' :: data.flatMap byteDigits

/-- The literal as a string. -/
def render (value : Value) : String :=
  String.ofList value.literal

theorem sameKey_eq_true (left right : Value) : left.sameKey right = true ↔ left = right := by
  simp [sameKey]

end Value

/-- Region of a container addressed by a borrow, a pop or a peek. -/
inductive Extent
  /-- Inclusive positions counted from the tail. -/
  | range (low high : Int64)
  | keys (members : List Value)
  deriving DecidableEq, Repr, Inhabited

namespace Extent

/-- Whether the extent addresses slots by key. -/
def isKeyed : Extent → Bool
  | .range _ _ => false
  | .keys _ => true

/-- The extent in the syntax of the textual stream. -/
def literal : Extent → List Char
  | .range low high =>
    '[' :: (Decimal.ofInt64 low ++ '.' :: '.' :: (Decimal.ofInt64 high ++ [']']))
  | .keys members =>
    '\x7b' :: ((members.map Value.literal).intersperse [',', ' ']).flatten ++ ['\x7d']

/-- The extent as a string. -/
def render (extent : Extent) : String :=
  String.ofList extent.literal

end Extent

end Custody
