import Custody.Proofs.Codec
import Custody.Proofs.Printing
import Custody.Source

/-!
# Streams survive interchange

Every operation is read back from its document, and every document of an operation is plain.  So a
stream without floats is read back from the text of its document, spans included, and verifying
that text is verifying the stream.
-/

namespace Custody

variable {codec : Json.Codec}

/-! ## Lists, pairs and options -/

theorem Json.text_ne_null (value : String) : Json.text value ≠ .null := by
  simp [text]

theorem Vocabulary.toJson_ne_null {α : Type} (vocabulary : Vocabulary α) (word : α) :
    vocabulary.toJson word ≠ .null :=
  Json.text_ne_null _

theorem Json.lookup_member? (name other : String) (value : Option Json) :
    (member? name value).lookup (some other) = if other = name then value else none := by
  cases value with
  | none => simp [member?]
  | some json =>
      by_cases same : other = name
      · simp [member?, same]
      · simp [member?, List.lookup_cons, same, beq_false_of_ne same]

namespace Json.Codec.Lawful

variable (lawful : codec.Lawful)

include lawful

theorem list?_map {α : Type} {read : Json → Option α} {write : α → Json} {members : List α}
    (reads : ∀ member ∈ members, read (write member) = some member) :
    codec.list? read (.array (members.map write)) = some members := by
  rw [lawful.list?_array]
  induction members with
  | nil => rfl
  | cons member rest ih =>
      rw [List.forall_mem_cons] at reads
      simp only [List.map_cons, List.mapM_cons, reads.1, ih reads.2, Option.bind_eq_bind,
        Option.bind_some]
      rfl

theorem record?_pair {first second : String} (apart : first ≠ second) (left right : Json) :
    codec.record? [first, second] (.object [member first left, member second right]) =
      some [some left, some right] := by
  rw [lawful.record?_object _ (by simp [member]) (by simp [member, apart])]
  simp [member, List.lookup_cons, beq_false_of_ne apart.symm]

theorem optional?_map {α : Type} {read : Json → Option α} {write : α → Json} {value : Option α}
    (solid : ∀ value, write value ≠ .null)
    (reads : ∀ member ∈ value, read (write member) = some member) :
    codec.optional? read (value.map write) = some value := by
  cases value with
  | none => exact lawful.optional?_none read
  | some value =>
      rw [Option.map_some, lawful.optional?_some read (solid value), reads value rfl]
      rfl

theorem optional?_word {α : Type} (vocabulary : Vocabulary α) (word : Option α) :
    codec.optional? (codec.word? vocabulary) (word.map vocabulary.toJson) = some word :=
  lawful.optional?_map vocabulary.toJson_ne_null fun word _ => lawful.word?_toJson vocabulary word

end Json.Codec.Lawful

/-! ## Parts of an operation -/

theorem Value.ofJson?_toJson (lawful : codec.Lawful) {value : Value}
    (known : value.element ≠ .float) : ofJson? value.toJson codec = some value := by
  cases value with
  | float value => exact absurd rfl known
  | bytes data =>
      have read := lawful.list?_map fun byte (_ : byte ∈ data) => lawful.byte?_ofNat byte
      simp [ofJson?, toJson, lawful.labelled?_object, tags, element, Element.name, read]
  | _ =>
      simp [ofJson?, toJson, lawful.labelled?_object, tags, element, Element.name,
        lawful.int64?_ofInt, lawful.text?_text, lawful.bool?_bool]

theorem Value.toJson_ne_null (value : Value) : value.toJson ≠ .null := by
  simp [toJson]

theorem Extent.ofJson?_toJson (lawful : codec.Lawful) {extent : Extent}
    (known : ∀ key ∈ extent.members, key.element ≠ .float) :
    ofJson? extent.toJson codec = some extent := by
  cases extent with
  | range low high =>
      simp [ofJson?, toJson, lawful.variant?_object, lawful.record?_pair, lawful.int64?_ofInt]
  | keys members =>
      have read : codec.list? (Value.ofJson? · codec) (.array (members.map Value.toJson)) =
          some members :=
        lawful.list?_map fun key inside => Value.ofJson?_toJson lawful (known key inside)
      simp [ofJson?, toJson, lawful.variant?_object, read]

theorem Extent.toJson_ne_null (extent : Extent) : extent.toJson ≠ .null := by
  cases extent <;> simp [toJson]

theorem Operand.ofJson?_toJson_value (lawful : codec.Lawful) {literal : Value}
    (known : literal.element ≠ .float) :
    ofJson? (Operand.value literal).toJson codec = some (.value literal) := by
  simp [ofJson?, toJson, lawful.variant?_object, Value.ofJson?_toJson lawful known]

theorem Operand.ofJson?_toJson_transfer (lawful : codec.Lawful) (source : String)
    (effect : Effect) :
    ofJson? (Operand.transfer source effect).toJson codec = some (.transfer source effect) := by
  simp [ofJson?, toJson, lawful.variant?_object, lawful.record?_pair, lawful.text?_text,
    lawful.word?_toJson]

theorem Capture.ofJson?_toJson (lawful : codec.Lawful) (capture : Capture) :
    ofJson? capture.toJson codec = some capture := by
  simp [ofJson?, toJson, lawful.record?_pair, lawful.text?_text, lawful.withDefault?_some,
    lawful.bool?_bool]

/-- A place whose numbers have 64 bits. -/
structure Span.Fits (span : Span) : Prop where
  line : span.line < UInt64.size
  column : span.column < UInt64.size
  offset : span.offset < UInt64.size
  length : span.length < UInt64.size

theorem Span.ofJson?_toJson (lawful : codec.Lawful) {span : Span} (fits : span.Fits) :
    ofJson? span.toJson codec = some span := by
  have fields : codec.record? ["line", "at", "pos", "len"] span.toJson =
      some [some (.ofNat span.line), some (.ofNat span.column), some (.ofNat span.offset),
        some (.ofNat span.length)] := by
    rw [toJson, lawful.record?_object _ (by simp [Json.member]) (by simp [Json.member])]
    simp [Json.member, List.lookup_cons]
  simp [ofJson?, fields, lawful.size?_ofNat, fits.line, fits.column, fits.offset, fits.length]

/-! ## Operations -/

namespace Operation

/-- Every field of an operation has a name, and none is named twice or taken for the operation's tag
or its place. -/
theorem fst_toMembers (operation : Operation) :
    (∀ member ∈ operation.toMembers, member.1.isSome = true) ∧
      (some "op" :: some "pos" :: operation.toMembers.map Prod.fst).Nodup := by
  cases operation with
  | declare container element key mode => cases key <;> simp [toMembers, Json.member, Json.member?]
  | bind binding container perspective =>
      cases perspective <;> simp [toMembers, Json.member, Json.member?]
  | push binding operand key conversion =>
      cases key <;> cases conversion <;> simp [toMembers, Json.member, Json.member?]
  | pop binding extent | peek binding extent =>
      cases extent <;> simp [toMembers, Json.member, Json.member?]
  | _ => simp [toMembers, Json.member]

/-- Every operation is read back from its tag and its fields. -/
theorem ofMembers?_toMembers (lawful : codec.Lawful) {operation : Operation}
    (known : ∀ value ∈ operation.literals, value.element ≠ .float) :
    ofMembers? operation.tag operation.toMembers codec = some operation := by
  have fields : ∀ names, codec.fields? names operation.toMembers =
      some (names.map fun name => operation.toMembers.lookup (some name)) := fun names =>
    lawful.fields?_members names operation.fst_toMembers.2.of_cons.of_cons
  cases operation with
  | push binding operand key conversion =>
      have operands : Operand.ofJson? operand.toJson codec = some operand := by
        cases operand with
        | value literal =>
            exact Operand.ofJson?_toJson_value lawful (known literal (by simp [literals]))
        | transfer source effect => exact Operand.ofJson?_toJson_transfer lawful source effect
      have keys : codec.optional? (Value.ofJson? · codec) (key.map Value.toJson) = some key := by
        apply lawful.optional?_map Value.toJson_ne_null
        intro value given
        apply Value.ofJson?_toJson lawful
        apply known
        cases operand <;> simp [literals, Option.mem_toList.mpr given]
      simp only [ofMembers?, tag, name, fields]
      simp [toMembers, Json.member, List.lookup_cons, List.lookup_append, Json.lookup_member?,
        lawful.text?_text, lawful.optional?_word, operands, keys]
  | pop binding extent | peek binding extent =>
      have extents :
          codec.optional? (Extent.ofJson? · codec) (extent.map Extent.toJson) = some extent := by
        apply lawful.optional?_map Extent.toJson_ne_null
        intro region given
        apply Extent.ofJson?_toJson lawful
        intro key inside
        exact known key (List.mem_flatMap.mpr ⟨region, Option.mem_toList.mpr given, inside⟩)
      simp only [ofMembers?, tag, name, fields]
      simp [toMembers, Json.member, List.lookup_cons, Json.lookup_member?, lawful.text?_text,
        extents]
  | borrow binding source extent mode =>
      have extents := Extent.ofJson?_toJson lawful known
      simp only [ofMembers?, tag, name, fields]
      simp [toMembers, Json.member, List.lookup_cons, lawful.text?_text, lawful.word?_toJson,
        extents]
  | choose binding arms fallback =>
      have read := lawful.list?_map fun arm (_ : arm ∈ arms) =>
        lawful.word?_toJson Perspective.vocabulary arm
      simp only [ofMembers?, tag, name, fields]
      simp [toMembers, Json.member, List.lookup_cons, lawful.text?_text, read,
        lawful.withDefault?_some, lawful.bool?_bool]
  | spawn captures =>
      have read : codec.list? (Capture.ofJson? · codec) (.array (captures.map Capture.toJson)) =
          some captures :=
        lawful.list?_map fun capture _ => Capture.ofJson?_toJson lawful capture
      simp only [ofMembers?, tag, name, fields]
      simp [toMembers, Json.member, List.lookup_cons, read]
  | exitScope => rfl
  | _ =>
      simp only [ofMembers?, tag, name, fields]
      simp [toMembers, Json.member, List.lookup_cons, List.lookup_append, Json.lookup_member?,
        lawful.text?_text, lawful.word?_toJson, lawful.optional?_word, lawful.withDefault?_some]

theorem tag_mem_tags (operation : Operation) : operation.tag ∈ tags := by
  cases operation <;> simp [tag, name, tags]

theorem fst_ne_of_mem_toMembers (operation : Operation) :
    ∀ member ∈ operation.toMembers, member.1 ≠ some "op" ∧ member.1 ≠ some "pos" := by
  intro member inside
  have apart := operation.fst_toMembers.2
  have named : member.1 ∈ operation.toMembers.map Prod.fst := List.mem_map_of_mem inside
  constructor <;> intro same <;> rw [same] at named <;> simp [named] at apart

end Operation

/-! ## Plain documents -/

theorem Json.Plain.natural (depth : Nat) {number : Nat} (small : number < UInt64.size) :
    Plain depth (.ofNat number) :=
  show Plain depth (.ofInt number) from .integer depth small

theorem Json.Plain.int64 (depth : Nat) (value : Int64) : Plain depth (.ofInt value.toInt) := by
  apply integer
  have low := value.le_toInt
  have high := value.toInt_lt
  rw [UInt64.size]
  omega

theorem Vocabulary.plain_toJson {α : Type} (vocabulary : Vocabulary α) (depth : Nat) (word : α) :
    Json.Plain depth (vocabulary.toJson word) :=
  .text depth _

theorem Json.Plain.member? {α : Type} {depth : Nat} {write : α → Json} {value : Option α}
    (each : ∀ member ∈ value, Plain depth (write member)) (name : String) :
    ∀ member ∈ Json.member? name (value.map write), Plain depth member.2 := by
  cases value with
  | none => simp [Json.member?]
  | some value => simpa [Json.member?] using each

theorem Vocabulary.plain_member? {α : Type} (vocabulary : Vocabulary α) (depth : Nat)
    (word : Option α) (name : String) :
    ∀ member ∈ Json.member? name (word.map vocabulary.toJson), Json.Plain depth member.2 :=
  .member? (fun word _ => vocabulary.plain_toJson depth word) name

theorem Json.Plain.map {α : Type} {depth : Nat} {write : α → Json} {members : List α}
    (each : ∀ member ∈ members, Plain depth (write member)) :
    Plain (depth + 1) (.array (members.map write)) :=
  .array (List.forall_mem_map.mpr each)

theorem Json.Plain.single {depth : Nat} {json : Json} (plain : Plain depth json) (name : String) :
    Plain (depth + 1) (.object [member name json]) := by
  apply object <;> simp [member, plain]

theorem Json.Plain.pair {depth : Nat} {left right : Json} (plain : Plain depth left)
    (other : Plain depth right) (first second : String) :
    Plain (depth + 1) (.object [member first left, member second right]) := by
  apply object <;> simp [member, plain, other]

theorem Value.plain {value : Value} (known : value.element ≠ .float) :
    Json.Plain 2 value.toJson := by
  cases value with
  | integer value => exact .pair (.text 1 _) (.int64 1 value) _ _
  | float value => exact absurd rfl known
  | string text => exact .pair (.text 1 _) (.text 1 text) _ _
  | bool value => exact .pair (.text 1 _) (.bool 1 value) _ _
  | bytes data =>
      have content : Json.Plain 1 (.array (data.map fun byte => .ofNat byte.toNat)) :=
        .map fun byte _ => .natural 0 (byte.toNat_lt.trans (by decide))
      exact .pair (.text 1 _) content _ _

theorem Extent.plain {extent : Extent} (known : ∀ key ∈ extent.members, key.element ≠ .float) :
    Json.Plain 4 extent.toJson := by
  cases extent with
  | range low high => exact .single (.pair (.int64 2 low) (.int64 2 high) _ _) _
  | keys members => exact .single (.map fun key inside => Value.plain (known key inside)) _

theorem Operand.plain_value {literal : Value} (known : literal.element ≠ .float) :
    Json.Plain 4 (Operand.value literal).toJson :=
  .single ((Value.plain known).mono (by decide)) _

theorem Operand.plain_transfer (source : String) (effect : Effect) :
    Json.Plain 4 (Operand.transfer source effect).toJson :=
  .single (.pair (.text 2 source) (Effect.vocabulary.plain_toJson 2 effect) _ _) _

theorem Capture.plain (capture : Capture) : Json.Plain 3 capture.toJson :=
  .pair (.text 2 capture.binding) (.bool 2 capture.take) _ _

theorem Span.plain {span : Span} (fits : span.Fits) : Json.Plain 4 span.toJson := by
  apply Json.Plain.object <;>
    simp [Json.member, Json.Plain.natural, fits.line, fits.column, fits.offset, fits.length]

/-- The fields of an operation are plain documents. -/
theorem Operation.plain_toMembers {operation : Operation}
    (known : ∀ value ∈ operation.literals, value.element ≠ .float) :
    ∀ member ∈ operation.toMembers, Json.Plain 4 member.2 := by
  cases operation with
  | declare container element key mode =>
      simp only [toMembers, List.forall_mem_append, List.forall_mem_cons]
      exact ⟨⟨⟨.text 4 container, Element.vocabulary.plain_toJson 4 element, by simp⟩,
        Element.vocabulary.plain_member? 4 key _⟩, Mode.vocabulary.plain_toJson 4 mode, by simp⟩
  | bind binding container perspective =>
      simp only [toMembers, List.forall_mem_append, List.forall_mem_cons]
      exact ⟨⟨.text 4 binding, .text 4 container, by simp⟩,
        Perspective.vocabulary.plain_member? 4 perspective _⟩
  | push binding operand key conversion =>
      have operands : Json.Plain 4 operand.toJson := by
        cases operand with
        | value literal => exact Operand.plain_value (known literal (by simp [literals]))
        | transfer source effect => exact Operand.plain_transfer source effect
      have keys : ∀ value ∈ key, Json.Plain 4 value.toJson := by
        intro value given
        refine (Value.plain (known value ?_)).mono (by decide)
        cases operand <;> simp [literals, Option.mem_toList.mpr given]
      simp only [toMembers, List.forall_mem_append, List.forall_mem_cons]
      exact ⟨⟨⟨.text 4 binding, operands, by simp⟩, .member? keys _⟩,
        Conversion.vocabulary.plain_member? 4 conversion _⟩
  | pop binding extent | peek binding extent =>
      have extents : ∀ region ∈ extent, Json.Plain 4 region.toJson := by
        intro region given
        apply Extent.plain
        intro key inside
        exact known key (List.mem_flatMap.mpr ⟨region, Option.mem_toList.mpr given, inside⟩)
      simp only [toMembers, List.forall_mem_cons]
      exact ⟨.text 4 binding, .member? extents _⟩
  | borrow binding source extent mode =>
      have extents := Extent.plain known
      simp [toMembers, Json.member, Json.Plain.text, Vocabulary.plain_toJson, extents]
  | choose binding arms fallback =>
      have words : Json.Plain 4 (.array (arms.map Perspective.vocabulary.toJson)) :=
        .map fun arm _ => Perspective.vocabulary.plain_toJson 3 arm
      simp [toMembers, Json.member, Json.Plain.text, Json.Plain.bool, words]
  | spawn captures =>
      have bindings : Json.Plain 4 (.array (captures.map Capture.toJson)) :=
        .map fun capture _ => capture.plain
      simp [toMembers, Json.member, bindings]
  | _ => simp [toMembers, Json.member, Json.Plain.text, Vocabulary.plain_toJson]

/-! ## Streams -/

namespace Node

/-- A node whose document tells all of it: no literal is a float, and its place has 64 bits. -/
structure Portable (node : Node) : Prop where
  literals : ∀ value ∈ node.operation.literals, value.element ≠ .float
  span : node.span.Fits

section

variable {node : Node}

theorem plain_toMembers (portable : node.Portable) :
    ∀ member ∈ node.toMembers, Json.Plain 4 member.2 := by
  simp only [toMembers, List.cons_append, List.forall_mem_cons, List.forall_mem_append]
  exact ⟨.text 4 _, Operation.plain_toMembers portable.literals, Span.plain portable.span, by simp⟩

theorem plain (portable : node.Portable) : Json.Plain 5 node.toJson := by
  refine .object ?_ (plain_toMembers portable)
  have names := node.operation.fst_toMembers.1
  simp only [toMembers, List.cons_append, List.forall_mem_cons, List.forall_mem_append]
  exact ⟨rfl, names, rfl, by simp⟩

/-- A node is read back from its document. -/
theorem ofJson?_toJson (lawful : codec.Lawful) (portable : node.Portable) :
    ofJson? node.toJson codec = some node := by
  have absent := node.operation.fst_ne_of_mem_toMembers
  have apart : (node.toMembers.map Prod.fst).Nodup := by
    have names := node.operation.fst_toMembers.2
    simp only [toMembers, Json.member, List.cons_append, List.map_cons, List.map_append,
      List.map_nil]
    grind
  have place : node.toMembers.lookup (some "pos") = some node.span.toJson := by
    have missing : node.operation.toMembers.lookup (some "pos") = none := by
      rw [List.lookup_eq_none_iff]
      exact fun member inside => by simpa using (absent member inside).2.symm
    simp [toMembers, Json.member, List.lookup_cons, List.lookup_append, missing]
  have others : node.toMembers.filter (fun member => ∀ name ∈ ["pos"], member.1 ≠ some name) =
      Json.member "op" (.text node.operation.tag) :: node.operation.toMembers := by
    have kept : node.operation.toMembers.filter
        (fun member => ∀ name ∈ ["pos"], member.1 ≠ some name) = node.operation.toMembers :=
      List.filter_eq_self.mpr fun member inside => by simp [(absent member inside).2]
    rw [toMembers, List.cons_append, List.filter_cons, List.filter_append, kept]
    simp [Json.member]
  have split := lawful.flattened?_object ["pos"] ((plain portable).mono (by decide)) apart
  have tagged := lawful.tagged?_members node.operation.tag_mem_tags
    fun member inside => (absent member inside).1
  rw [others, List.map_singleton, place] at split
  simp [ofJson?, toJson, split, tagged, Operation.ofMembers?_toMembers lawful portable.literals,
    lawful.withDefault?_some, Span.ofJson?_toJson lawful portable.span]

end

/-- A stream is read back from the text of its document, in either layout. -/
theorem streamOfText?_streamToJson (lawful : codec.Lawful) {nodes : List Node}
    (portable : ∀ node ∈ nodes, node.Portable) :
    ∀ text ∈ [codec.write (streamToJson nodes), codec.writePretty (streamToJson nodes)],
      streamOfText? text codec = some nodes := by
  have plain : Json.Plain Json.nestingLimit (streamToJson nodes) :=
    .map fun node inside => (plain (portable node inside)).mono (by decide)
  have read : codec.list? (ofJson? · codec) (streamToJson nodes) = some nodes :=
    lawful.list?_map fun node inside => ofJson?_toJson lawful (portable node inside)
  simp [streamOfText?, lawful.read?_write plain, lawful.read?_writePretty plain, read]

end Node

namespace Source

/-- The document of a stream says what the stream says: its text, in either layout of a lawful
codec, is read back as the same operations at the same places, and is verified as they are. -/
theorem interchange_agrees (lawful : codec.Lawful) {nodes : List Node}
    (portable : ∀ node ∈ nodes, node.Portable) (name : String) (settings : Settings) :
    ∀ text ∈ [codec.write (Node.streamToJson nodes), codec.writePretty (Node.streamToJson nodes)],
      Node.streamOfText? text codec = some nodes ∧
        check ⟨name, text, .json⟩ settings codec = .ok (verify nodes settings.strict) := by
  intro text written
  have read := Node.streamOfText?_streamToJson lawful portable text written
  refine ⟨read, ?_⟩
  simp only [check, parse, read]
  rfl

/-- Escapes, bytes and the ends of the integers, at the last place of 64 bits, in the program's own
codec. -/
theorem interchange_agrees_escaped :
    let operation : Operation := .push "a \"b\"\n" (.value (.bytes [0, 255]))
      (some (.string "\x01\\")) (some .encode)
    let extent : Extent := .keys [.integer Int64.minValue, .integer Int64.maxValue, .bool true]
    let nodes : List Node := [⟨operation, ⟨UInt64.size - 1, 0, 7, UInt64.size - 1⟩⟩,
      ⟨.pop "" (some extent), {}⟩]
    Json.Codec.standard.Lawful ∧ (∀ node ∈ nodes, node.Portable) ∧
      Node.streamOfText? (Node.streamToJson nodes).render = some nodes ∧
      check ⟨"-", (Node.streamToJson nodes).render, .json⟩ {} = .ok (verify nodes false) := by
  intro operation extent nodes
  have portable : ∀ node ∈ nodes, node.Portable := by
    simp only [nodes, List.forall_mem_cons]
    exact ⟨⟨by decide, by decide, by decide, by decide, by decide⟩,
      ⟨by decide, by decide, by decide, by decide, by decide⟩, by simp⟩
  have agrees := interchange_agrees Json.Codec.standard_lawful portable "-" {} _ List.mem_cons_self
  exact ⟨Json.Codec.standard_lawful, portable, agrees⟩

end Source

end Custody
