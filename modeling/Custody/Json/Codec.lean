import Custody.Json.Reader
import Custody.Json.Shape
import Custody.Json.Writer
import Custody.Vocabulary

/-!
# Codecs of interchange documents

What a stream asks of the format it is exchanged in: a text for every document, and a reading of
each shape that the parts of a stream have.  A codec is a parameter of everything that reads a
stream from a text; `Codec.Lawful` names the rules that a stream relies on, and `Codec.standard` is
the codec of the program.
-/

namespace Custody

/-- The document of a word: its name. -/
def Vocabulary.toJson {α : Type} (vocabulary : Vocabulary α) (word : α) : Json :=
  .text (vocabulary.name word)

namespace Json

/-- A document that every reader accepts as it is: its strings have a text, its numbers are integers
in range, and its parts are nested to a depth at most. -/
inductive Plain : Nat → Json → Prop
  | null (depth : Nat) : Plain depth .null
  | bool (depth : Nat) (value : Bool) : Plain depth (.bool value)
  | integer (depth : Nat) {value : Int} (inRange : value.natAbs < UInt64.size) :
      Plain depth (.ofInt value)
  | text (depth : Nat) (value : String) : Plain depth (.text value)
  | array {depth : Nat} {elements : List Json} (each : ∀ element ∈ elements, Plain depth element) :
      Plain (depth + 1) (.array elements)
  | object {depth : Nat} {members : List (Option String × Json)}
      (named : ∀ member ∈ members, member.1.isSome = true)
      (each : ∀ member ∈ members, Plain depth member.2) : Plain (depth + 1) (.object members)

/-- The readings and writings of a format. -/
structure Codec where
  /-- The text of a document on one line. -/
  write : Json → String
  /-- The text of a document over several lines. -/
  writePretty : Json → String
  /-- The document of a text. -/
  read? : String → Option Json
  text? : Json → Option String
  bool? : Json → Option Bool
  int64? : Json → Option Int64
  double? : Json → Option Double
  size? : Json → Option Nat
  byte? : Json → Option UInt8
  list? {α : Type} : (Json → Option α) → Json → Option (List α)
  /-- A field that may be missing. -/
  optional? {α : Type} : (Json → Option α) → Option Json → Option (Option α)
  /-- A field with a default. -/
  withDefault? {α : Type} : (Json → Option α) → α → Option Json → Option α
  /-- A word of a vocabulary. -/
  word? {α : Type} : Vocabulary α → Json → Option α
  /-- The fields of a record. -/
  record? : List String → Json → Option (List (Option Json))
  /-- A variant by its only member, out of the given names. -/
  variant? : List String → Json → Option (String × Json)
  /-- A variant by a label beside its content: the names of the two, and the names it can have. -/
  labelled? : String → String → List String → Json → Option (String × Json)
  /-- The fields of a record, and the members of a part that is written beside them. -/
  flattened? : List String → Json → Option (List (Option Json) × List (Option String × Json))
  /-- A variant by a tag among its fields: the name of the tag, and the names it can have. -/
  tagged? : String → List String → List (Option String × Json) →
    Option (String × List (Option String × Json))
  /-- The fields of a variant. -/
  fields? : List String → List (Option String × Json) → Option (List (Option Json))

namespace Codec

/-- The rules of a format that streams rely on.  They speak of plain documents only, and of members
with different names. -/
structure Lawful (codec : Codec) : Prop where
  /-- A document is read back from its text. -/
  read?_write : ∀ {json : Json}, Plain nestingLimit json →
    codec.read? (codec.write json) = some json
  read?_writePretty : ∀ {json : Json}, Plain nestingLimit json →
    codec.read? (codec.writePretty json) = some json
  text?_text : ∀ text : String, codec.text? (.text text) = some text
  bool?_bool : ∀ value : Bool, codec.bool? (.bool value) = some value
  int64?_ofInt : ∀ value : Int64, codec.int64? (.ofInt value.toInt) = some value
  size?_ofNat : ∀ {number : Nat}, number < UInt64.size → codec.size? (.ofNat number) = some number
  byte?_ofNat : ∀ byte : UInt8, codec.byte? (.ofNat byte.toNat) = some byte
  /-- A list is an array. -/
  list?_array : ∀ {α : Type} (read : Json → Option α) (elements : List Json),
    codec.list? read (.array elements) = elements.mapM read
  optional?_none : ∀ {α : Type} (read : Json → Option α), codec.optional? read none = some none
  optional?_some : ∀ {α : Type} (read : Json → Option α) {json : Json}, json ≠ .null →
    codec.optional? read (some json) = (read json).map some
  withDefault?_some : ∀ {α : Type} (read : Json → Option α) (default : α) (json : Json),
    codec.withDefault? read default (some json) = read json
  word?_toJson : ∀ {α : Type} (vocabulary : Vocabulary α) (word : α),
    codec.word? vocabulary (vocabulary.toJson word) = some word
  /-- The fields of a record are members of an object, found by name. -/
  record?_object : ∀ (names : List String) {members : List (Option String × Json)},
    (∀ member ∈ members, member.1.isSome = true) → (members.map Prod.fst).Nodup →
    codec.record? names (.object members) =
      some (names.map fun name => members.lookup (some name))
  variant?_object : ∀ {names : List String} {name : String}, name ∈ names → ∀ content : Json,
    codec.variant? names (.object [member name content]) = some (name, content)
  labelled?_object : ∀ {label place : String}, label ≠ place →
    ∀ {names : List String} {name : String}, name ∈ names → ∀ content : Json,
      codec.labelled? label place names
        (.object [member label (.text name), member place content]) = some (name, content)
  /-- The members of a part that is written beside the fields of a record are those that the record
  does not know. -/
  flattened?_object : ∀ (names : List String) {members : List (Option String × Json)},
    Plain (nestingLimit - 1) (.object members) → (members.map Prod.fst).Nodup →
    codec.flattened? names (.object members) =
      some (names.map fun name => members.lookup (some name),
        members.filter fun member => ∀ name ∈ names, member.1 ≠ some name)
  tagged?_members : ∀ {label : String} {names : List String} {name : String}, name ∈ names →
    ∀ {members : List (Option String × Json)}, (∀ member ∈ members, member.1 ≠ some label) →
      codec.tagged? label names (member label (.text name) :: members) = some (name, members)
  fields?_members : ∀ (names : List String) {members : List (Option String × Json)},
    (members.map Prod.fst).Nodup →
    codec.fields? names members = some (names.map fun name => members.lookup (some name))

/-- The codec of the program. -/
def standard : Codec where
  write := Json.render
  writePretty := Json.renderPretty
  read? := Json.read?
  text? := Json.text?
  bool? := Json.bool?
  int64? := Json.int64?
  double? := Json.double?
  size? := Json.size?
  byte? := Json.byte?
  list? := Json.list?
  optional? := Json.optional?
  withDefault? := Json.withDefault?
  word? vocabulary := Json.word? vocabulary.all vocabulary.name
  record? := Json.record?
  variant? := Json.variant?
  labelled? := Json.labelled?
  flattened? := Json.flattened?
  tagged? := Json.tagged?
  fields? names members := names.mapM (Json.field? members)

end Codec

end Json

end Custody
