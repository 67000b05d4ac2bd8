import Custody.Json.Numeral

/-!
# Shapes of interchange documents

Reading records, words, variants and options out of a document.  A record is an object whose known
members each occur at most once, in any order and among others; or an array of its fields in order.
A word of a vocabulary is a string, or an object whose only member is the word with nothing in it.
A variant is told by its only member, by a label beside its content, or by a tag among its fields.
-/

namespace Custody.Json

/-- How deep arrays and objects may be nested where their content matters. -/
def nestingLimit : Nat := 127

mutual

/-- Whether every string has a text, every number is in range, and nesting keeps to the limit.
The first argument is the depth that is left. -/
def isReadable : Nat → Json → Bool
  | _, .null => true
  | _, .bool _ => true
  | _, .number literal =>
    (integer? literal).any (fun value => value.natAbs < UInt64.size) || (doubleOf? literal).isSome
  | _, .string text => text.isSome
  | 0, .array _ => false
  | 0, .object _ => false
  | depth + 1, .array elements => areReadable depth elements
  | depth + 1, .object members => membersReadable depth members

/-- Whether all elements are readable. -/
def areReadable : Nat → List Json → Bool
  | _, [] => true
  | depth, element :: rest => isReadable depth element && areReadable depth rest

/-- Whether all members are readable, names included. -/
def membersReadable : Nat → List (Option String × Json) → Bool
  | _, [] => true
  | depth, (name, value) :: rest =>
    name.isSome && isReadable depth value && membersReadable depth rest

end

/-- The member of a name, if there is one.  A name that is repeated has no reading. -/
def field? (members : List (Option String × Json)) (name : String) : Option (Option Json) :=
  match members.filter fun member => member.1 = some name with
  | [] => some none
  | [(_, value)] => some (some value)
  | _ => none

/-- The fields of a record, by name in an object or by position in an array. -/
def record? (names : List String) : Json → Option (List (Option Json))
  | .object members =>
    if members.all fun member => member.1.isSome then names.mapM (field? members) else none
  | .array elements =>
    if elements.length ≤ names.length then
      some (elements.map some ++ List.replicate (names.length - elements.length) none)
    else none
  | _ => none

/-- A value, or nothing where the member is missing or null. -/
def optional? {α : Type} (read : Json → Option α) : Option Json → Option (Option α)
  | none => some none
  | some .null => some none
  | some json => (read json).map some

/-- A value with a default for a missing member. -/
def withDefault? {α : Type} (read : Json → Option α) (default : α) : Option Json → Option α
  | none => some default
  | some json => read json

/-- Whether a document holds nothing. -/
def isVoid : Json → Bool
  | .null => true
  | .object [] => true
  | _ => false

/-- A word of a vocabulary. -/
def word? {α : Type} (all : List α) (name : α → String) : Json → Option α
  | .string (some text) => all.find? fun value => name value = text
  | .object [(some text, content)] =>
    if content.isVoid then all.find? fun value => name value = text else none
  | _ => none

/-- The tag of a variant: its name, or its place among the names. -/
def tag? (names : List String) : Json → Option String
  | .string (some text) => names.find? (· = text)
  | .number literal =>
    match integer? literal with
    | some (.ofNat index) => names[index]?
    | _ => none
  | _ => none

/-- The name and the content of a variant that is told by its only member. -/
def variant? (names : List String) : Json → Option (String × Json)
  | .object [(some name, content)] => if name ∈ names then some (name, content) else none
  | _ => none

/-- The name and the content of a variant that is told by a label beside its content.  The label is
a word in an object and a tag in an array. -/
def labelled? (label content : String) (names : List String) (json : Json) :
    Option (String × Json) := do
  let [some label, some content] ← json.record? [label, content] | none
  let name ← match json with
    | .array _ => label.tag? names
    | _ => label.word? names id
  return (name, content)

/-- The fields of a record by name, and the members that are left to a part that is written beside
them.  Those must be readable, whether the part knows them or not. -/
def flattened? (names : List String) :
    Json → Option (List (Option Json) × List (Option String × Json))
  | .object members => do
    let fields ← names.mapM (field? members)
    let others := members.filter fun member => ∀ name ∈ names, member.1 ≠ some name
    guard (membersReadable (nestingLimit - 2) others)
    return (fields, others)
  | _ => none

/-- The name of a variant that is told by a tag among its fields, and the fields. -/
def tagged? (label : String) (names : List String) (members : List (Option String × Json)) :
    Option (String × List (Option String × Json)) := do
  let tag ← (← field? members label)
  return (← tag.tag? names, members.filter fun member => member.1 ≠ some label)

/-- The text of a string. -/
def text? : Json → Option String
  | .string text => text
  | _ => none

/-- A truth value. -/
def bool? : Json → Option Bool
  | .bool value => some value
  | _ => none

/-- A byte. -/
def byte? (json : Json) : Option UInt8 :=
  (json.below? 256).map UInt8.ofNat

/-- The elements of an array, each read in turn. -/
def list? {α : Type} (read : Json → Option α) : Json → Option (List α)
  | .array elements => elements.mapM read
  | _ => none

end Custody.Json
