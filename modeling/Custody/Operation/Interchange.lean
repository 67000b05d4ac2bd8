import Custody.Json.Codec
import Custody.Operation.Basic

/-!
# Interchange form of operations

A stream as a document: an array of objects, each with the name of its operation, the fields of
the operation beside it, and its place in the source.  Fields without a value are left out.  A
stream is read by the codec of the program, or by another one.
-/

namespace Custody

namespace Value

/-- The interchange name of the type of each literal. -/
def tags : List String := ["integer", "float", "string", "bool", "bytes"]

/-- The document of a literal. -/
def toJson (value : Value) : Json :=
  let content : Json := match value with
    | .integer i => .ofInt i.toInt
    | .float x => .ofDouble x
    | .string text => .text text
    | .bool b => .bool b
    | .bytes data => .array (data.map fun byte => .ofNat byte.toNat)
  .object [Json.member "type" (.text value.element.name), Json.member "value" content]

/-- The literal of a document. -/
def ofJson? (json : Json) (codec : Json.Codec := .standard) : Option Value := do
  let (name, content) ← codec.labelled? "type" "value" tags json
  match name with
  | "integer" => return .integer (← codec.int64? content)
  | "float" => return .float (← codec.double? content)
  | "string" => return .string (← codec.text? content)
  | "bool" => return .bool (← codec.bool? content)
  | "bytes" => return .bytes (← codec.list? codec.byte? content)
  | _ => none

end Value

namespace Extent

/-- The document of an extent. -/
def toJson : Extent → Json
  | .range low high =>
    .object [Json.member "range"
      (.object [Json.member "lo" (.ofInt low.toInt), Json.member "hi" (.ofInt high.toInt)])]
  | .keys members => .object [Json.member "keys" (.array (members.map Value.toJson))]

/-- The extent of a document. -/
def ofJson? (json : Json) (codec : Json.Codec := .standard) : Option Extent := do
  let (name, content) ← codec.variant? ["range", "keys"] json
  match name with
  | "range" =>
    let [some low, some high] ← codec.record? ["lo", "hi"] content | none
    return .range (← codec.int64? low) (← codec.int64? high)
  | "keys" => return .keys (← codec.list? (Value.ofJson? · codec) content)
  | _ => none

end Extent

namespace Operand

/-- The document of an operand. -/
def toJson : Operand → Json
  | .value literal => .object [Json.member "value" literal.toJson]
  | .transfer source effect =>
    .object [Json.member "binding" (.object [Json.member "name" (.text source),
      Json.member "effect" (Effect.vocabulary.toJson effect)])]

/-- The operand of a document. -/
def ofJson? (json : Json) (codec : Json.Codec := .standard) : Option Operand := do
  let (name, content) ← codec.variant? ["value", "binding"] json
  match name with
  | "value" => return .value (← Value.ofJson? content codec)
  | "binding" =>
    let [some source, some effect] ← codec.record? ["name", "effect"] content | none
    return .transfer (← codec.text? source) (← codec.word? Effect.vocabulary effect)
  | _ => none

end Operand

namespace Capture

/-- The document of a captured binding. -/
def toJson (capture : Capture) : Json :=
  .object [Json.member "binding" (.text capture.binding), Json.member "take" (.bool capture.take)]

/-- The captured binding of a document. -/
def ofJson? (json : Json) (codec : Json.Codec := .standard) : Option Capture := do
  let [some binding, take] ← codec.record? ["binding", "take"] json | none
  return ⟨← codec.text? binding, ← codec.withDefault? codec.bool? false take⟩

end Capture

namespace Span

/-- The document of a span. -/
def toJson (span : Span) : Json :=
  .object [Json.member "line" (.ofNat span.line), Json.member "at" (.ofNat span.column),
    Json.member "pos" (.ofNat span.offset), Json.member "len" (.ofNat span.length)]

/-- The span of a document. -/
def ofJson? (json : Json) (codec : Json.Codec := .standard) : Option Span := do
  let [some line, some column, some offset, some length] ←
    codec.record? ["line", "at", "pos", "len"] json | none
  return ⟨← codec.size? line, ← codec.size? column, ← codec.size? offset, ← codec.size? length⟩

end Span

namespace Operation

/-- The interchange name of each operation, in declaration order. -/
def tags : List String :=
  ["declare", "bind", "push", "pop", "peek", "borrow", "set_perspective", "flip", "capture",
    "release", "match", "scope_enter", "scope_exit", "spawn"]

/-- The interchange name of an operation. -/
def tag : Operation → String
  | .setPerspective .. => "set_perspective"
  | operation => operation.name

/-- The fields of an operation. -/
def toMembers : Operation → List (Option String × Json)
  | .declare container element key mode =>
    [Json.member "container" (.text container),
      Json.member "element" (Element.vocabulary.toJson element)] ++
      Json.member? "key" (key.map Element.vocabulary.toJson) ++
      [Json.member "mode" (Mode.vocabulary.toJson mode)]
  | .bind binding container perspective =>
    [Json.member "binding" (.text binding), Json.member "container" (.text container)] ++
      Json.member? "perspective" (perspective.map Perspective.vocabulary.toJson)
  | .push binding operand key conversion =>
    [Json.member "binding" (.text binding), Json.member "operand" operand.toJson] ++
      Json.member? "key" (key.map Value.toJson) ++
      Json.member? "conversion" (conversion.map Conversion.vocabulary.toJson)
  | .pop binding extent =>
    Json.member "binding" (.text binding) :: Json.member? "extent" (extent.map Extent.toJson)
  | .peek binding extent =>
    Json.member "binding" (.text binding) :: Json.member? "extent" (extent.map Extent.toJson)
  | .borrow binding source extent mode =>
    [Json.member "binding" (.text binding), Json.member "source" (.text source),
      Json.member "extent" extent.toJson,
      Json.member "mode" (BorrowMode.vocabulary.toJson mode)]
  | .setPerspective binding perspective =>
    [Json.member "binding" (.text binding),
      Json.member "perspective" (Perspective.vocabulary.toJson perspective)]
  | .flip binding => [Json.member "binding" (.text binding)]
  | .capture target source =>
    [Json.member "target" (.text target), Json.member "source" (.text source)]
  | .release binding => [Json.member "binding" (.text binding)]
  | .choose binding arms fallback =>
    [Json.member "binding" (.text binding),
      Json.member "arms" (.array (arms.map Perspective.vocabulary.toJson)),
      Json.member "default" (.bool fallback)]
  | .enterScope kind => [Json.member "kind" (ScopeKind.vocabulary.toJson kind)]
  | .exitScope => []
  | .spawn captures => [Json.member "captures" (.array (captures.map Capture.toJson))]

/-- The operation of a tag and its fields. -/
def ofMembers? (tag : String) (members : List (Option String × Json))
    (codec : Json.Codec := .standard) : Option Operation := do
  match tag with
  | "declare" =>
    let [some container, some element, key, some mode] ←
      codec.fields? ["container", "element", "key", "mode"] members | none
    return .declare (← codec.text? container) (← codec.word? Element.vocabulary element)
      (← codec.optional? (codec.word? Element.vocabulary) key)
      (← codec.word? Mode.vocabulary mode)
  | "bind" =>
    let [some binding, some container, perspective] ←
      codec.fields? ["binding", "container", "perspective"] members | none
    return .bind (← codec.text? binding) (← codec.text? container)
      (← codec.optional? (codec.word? Perspective.vocabulary) perspective)
  | "push" =>
    let [some binding, some operand, key, conversion] ←
      codec.fields? ["binding", "operand", "key", "conversion"] members | none
    return .push (← codec.text? binding) (← Operand.ofJson? operand codec)
      (← codec.optional? (Value.ofJson? · codec) key)
      (← codec.optional? (codec.word? Conversion.vocabulary) conversion)
  | "pop" =>
    let [some binding, extent] ← codec.fields? ["binding", "extent"] members | none
    return .pop (← codec.text? binding) (← codec.optional? (Extent.ofJson? · codec) extent)
  | "peek" =>
    let [some binding, extent] ← codec.fields? ["binding", "extent"] members | none
    return .peek (← codec.text? binding) (← codec.optional? (Extent.ofJson? · codec) extent)
  | "borrow" =>
    let [some binding, some source, some extent, some mode] ←
      codec.fields? ["binding", "source", "extent", "mode"] members | none
    return .borrow (← codec.text? binding) (← codec.text? source)
      (← Extent.ofJson? extent codec) (← codec.word? BorrowMode.vocabulary mode)
  | "set_perspective" =>
    let [some binding, some perspective] ←
      codec.fields? ["binding", "perspective"] members | none
    return .setPerspective (← codec.text? binding)
      (← codec.word? Perspective.vocabulary perspective)
  | "flip" =>
    let [some binding] ← codec.fields? ["binding"] members | none
    return .flip (← codec.text? binding)
  | "capture" =>
    let [some target, some source] ← codec.fields? ["target", "source"] members | none
    return .capture (← codec.text? target) (← codec.text? source)
  | "release" =>
    let [some binding] ← codec.fields? ["binding"] members | none
    return .release (← codec.text? binding)
  | "match" =>
    let [some binding, some arms, fallback] ←
      codec.fields? ["binding", "arms", "default"] members | none
    return .choose (← codec.text? binding)
      (← codec.list? (codec.word? Perspective.vocabulary) arms)
      (← codec.withDefault? codec.bool? false fallback)
  | "scope_enter" =>
    let [kind] ← codec.fields? ["kind"] members | none
    return .enterScope (← codec.withDefault? (codec.word? ScopeKind.vocabulary) .block kind)
  | "scope_exit" => return .exitScope
  | "spawn" =>
    let [some captures] ← codec.fields? ["captures"] members | none
    return .spawn (← codec.list? (Capture.ofJson? · codec) captures)
  | _ => none

end Operation

namespace Node

/-- The members of a node's document. -/
def toMembers (node : Node) : List (Option String × Json) :=
  Json.member "op" (.text node.operation.tag) :: node.operation.toMembers ++
    [Json.member "pos" node.span.toJson]

/-- The document of a node. -/
def toJson (node : Node) : Json :=
  .object node.toMembers

/-- The node of a document: its span, and its operation beside it. -/
def ofJson? (json : Json) (codec : Json.Codec := .standard) : Option Node := do
  let ([span], members) ← codec.flattened? ["pos"] json | none
  let (tag, fields) ← codec.tagged? "op" Operation.tags members
  return ⟨← Operation.ofMembers? tag fields codec,
    ← codec.withDefault? (Span.ofJson? · codec) {} span⟩

/-- The document of a stream. -/
def streamToJson (nodes : List Node) : Json :=
  .array (nodes.map toJson)

/-- The stream of a text. -/
def streamOfText? (text : String) (codec : Json.Codec := .standard) : Option (List Node) := do
  codec.list? (ofJson? · codec) (← codec.read? text)

end Node

end Custody
