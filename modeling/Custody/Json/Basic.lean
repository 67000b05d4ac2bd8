/-!
# Interchange documents

A document as its grammar gives it, before any meaning is read into it.  Numbers keep their
literal, members keep their order and may repeat a name, and a string whose escapes leave a
surrogate without its partner has no text.
-/

namespace Custody

/-- A parsed document. -/
inductive Json
  | null
  | bool (value : Bool)
  | number (literal : List Char)
  | string (text : Option String)
  | array (elements : List Json)
  | object (members : List (Option String × Json))
  deriving Repr, Inhabited

namespace Json

/-- A string document. -/
def text (value : String) : Json :=
  .string (some value)

/-- A member of an object. -/
def member (name : String) (value : Json) : Option String × Json :=
  (some name, value)

/-- A member that is left out when it has no value. -/
def member? (name : String) : Option Json → List (Option String × Json)
  | some value => [(some name, value)]
  | none => []

end Json

end Custody
