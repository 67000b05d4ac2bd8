import Custody.Double.Reader
import Custody.Text.Blank
import Custody.Text.Utf8
import Custody.Value

/-!
# Conversions between element types

A closed table says which conversion leads from one element type to another.  A push names a
conversion, and the pair of element types it is applied to must be in the table; `auto` stands
for the row of the pair.
-/

namespace Custody

namespace Conversion

/-- The supported conversions: kind, source and target. -/
def table : List (Conversion × Element × Element) := [
  (.widen, .integer, .float),
  (.widen, .bool, .integer),
  (.widen, .bool, .float),
  (.truncate, .float, .integer),
  (.format, .integer, .string),
  (.format, .float, .string),
  (.format, .bool, .string),
  (.parse, .string, .integer),
  (.parse, .string, .float),
  (.parse, .string, .bool),
  (.truthy, .integer, .bool),
  (.truthy, .float, .bool),
  (.encode, .string, .bytes),
  (.decode, .bytes, .string)]

/-- A conversion that the table does not hold. -/
structure Unsupported where
  kind : Conversion
  source : Element
  target : Element
  deriving DecidableEq, Repr

/-- The wording of an unsupported conversion. -/
def Unsupported.message (fault : Unsupported) : String :=
  s!"unsupported conversion '{fault.kind.name}' from {fault.source.name} to {fault.target.name}"

/-- The conversion that a kind stands for on a pair of element types. -/
def resolve (kind : Conversion) (source target : Element) : Except Unsupported Conversion :=
  let row? := table.find? fun row =>
    row.2.1 = source ∧ row.2.2 = target ∧ (kind = .auto ∨ row.1 = kind)
  match row? with
  | some row => .ok row.1
  | none => .error ⟨kind, source, target⟩

/-- The element types that some conversion leads to. -/
def targets (source : Element) : List Element :=
  (table.filter fun row => row.2.1 = source).map fun row => row.2.2

end Conversion

namespace Value

/-- Convert a literal to another element type.  The inner `none` is a value that only the running
program knows: the conversion is legal, but the literal cannot be read. -/
def convert (value : Value) (kind : Conversion) (target : Element) :
    Except Conversion.Unsupported (Option Value) := do
  let resolved ← kind.resolve value.element target
  match value, target with
  | .integer i, .float => return some (.float (Double.ofInt i.toInt))
  | .bool b, .integer => return some (.integer (if b then 1 else 0))
  | .bool b, .float => return some (.float (if b then Double.one else Double.zero false))
  | .float x, .integer => return some (.integer x.truncate)
  | .integer i, .string => return some (.string (String.ofList (Decimal.ofInt64 i)))
  | .float x, .string => return some (.string (String.ofList (x.text Double.plainStyle)))
  | .bool b, .string => return some (.string (if b then "true" else "false"))
  | .string s, .integer => return (Decimal.readInt64 (Text.trim s.toList)).toOption.map .integer
  | .string s, .float => return (Double.read? (Text.trim s.toList)).map .float
  | .string s, .bool =>
    if s = "true" ∨ s = "1" then return some (.bool true)
    else if s = "false" ∨ s = "0" ∨ s = "" then return some (.bool false)
    else return none
  | .integer i, .bool => return some (.bool (i ≠ 0))
  | .float x, .bool => return some (.bool !x.isZero)
  | .string s, .bytes => return some (.bytes (Text.Utf8.encode s.toList))
  | .bytes b, .string => return some (.string (String.ofList (Text.Utf8.decode b)))
  | _, _ => throw ⟨resolved, value.element, target⟩

end Value

end Custody
