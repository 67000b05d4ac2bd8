import Mathlib.Data.List.Nodup
import Custody.Proofs.Documents

/-!
# The rules of the standard codec

The readers and writers of the program keep to the rules that streams rely on: each shape is read
back from the document that is written for it.
-/

namespace Custody

/-- A word is found by a name that no other word has. -/
theorem find?_name {α : Type} {all : List α} {name : α → String} {word : α} (inside : word ∈ all)
    (only : ∀ other ∈ all, name other = name word → other = word) :
    all.find? (fun other => name other = name word) = some word := by
  cases found : all.find? (fun other => name other = name word) with
  | none => simpa using List.find?_eq_none.mp found word inside
  | some other =>
      have same : name other = name word := by simpa using List.find?_some found
      rw [only other (List.mem_of_find?_eq_some found) same]

theorem Vocabulary.find?_name {α : Type} (vocabulary : Vocabulary α) (word : α) :
    vocabulary.all.find? (fun other => vocabulary.name other = vocabulary.name word) =
      some word :=
  Custody.find?_name (vocabulary.complete word) fun _ inside same =>
    List.inj_on_of_nodup_map vocabulary.distinct inside (vocabulary.complete word) same

namespace Json

/-! ## Numbers -/

theorem int64?_ofInt (value : Int64) : (ofInt value.toInt).int64? = some value := by
  have inRange : Int64.minValue.toInt ≤ value.toInt ∧ value.toInt ≤ Int64.maxValue.toInt :=
    ⟨value.minValue_le_toInt, value.toInt_le⟩
  simp only [ofInt, int64?, integer?_ofInt, Option.bind_some, if_pos inRange, Int64.ofInt_toInt]

theorem below?_ofNat {number bound : Nat} (small : number < bound) :
    (ofNat number).below? bound = some number := by
  have read : integer? (Nat.toDigits 10 number) = some (number : Int) := integer?_ofInt number
  simp [ofNat, below?, read, small]

theorem byte?_ofNat (byte : UInt8) : (ofNat byte.toNat).byte? = some byte := by
  simp [byte?, below?_ofNat byte.toNat_lt]

/-! ## Members by name -/

section

variable {members : List (Option String × Json)} {name : String}

theorem filter_eq_nil (absent : ∀ member ∈ members, member.1 ≠ some name) :
    members.filter (fun member => member.1 = some name) = [] :=
  List.filter_eq_nil_iff.mpr fun member inside => by simp [absent member inside]

theorem filter_eq_self (absent : ∀ member ∈ members, member.1 ≠ some name) :
    members.filter (fun member => member.1 ≠ some name) = members :=
  List.filter_eq_self.mpr fun member inside => by simp [absent member inside]

/-- Where no name is repeated, every name has a reading. -/
theorem field?_eq_lookup (apart : (members.map Prod.fst).Nodup) (name : String) :
    field? members name = some (members.lookup (some name)) := by
  induction members with
  | nil => rfl
  | cons first rest ih =>
      obtain ⟨label, value⟩ := first
      rw [List.map_cons, List.nodup_cons] at apart
      by_cases here : label = some name
      · have absent : ∀ member ∈ rest, member.1 ≠ some name := by
          intro member inside same
          exact apart.1 (List.mem_map.mpr ⟨member, inside, same.trans here.symm⟩)
        simp [field?, here, filter_eq_nil absent]
      · have differs : (some name == label) = false := by simpa using Ne.symm here
        rw [List.lookup_cons, differs, ← ih apart.2]
        simp [field?, here]

theorem mapM_field? (apart : (members.map Prod.fst).Nodup) (names : List String) :
    names.mapM (field? members) = some (names.map fun name => members.lookup (some name)) := by
  rw [funext (field?_eq_lookup apart)]
  exact List.mapM_pure

theorem record?_object (named : ∀ member ∈ members, member.1.isSome = true)
    (apart : (members.map Prod.fst).Nodup) (names : List String) :
    (object members).record? names =
      some (names.map fun name => members.lookup (some name)) := by
  rw [record?, if_pos (List.all_eq_true.mpr named), mapM_field? apart]

end

/-! ## Variants -/

section

variable {names : List String} {name : String}

theorem labelled?_object {label place : String} (apart : label ≠ place) (known : name ∈ names)
    (content : Json) :
    (object [member label (.text name), member place content]).labelled? label place names =
      some (name, content) := by
  let members := [member label (.text name), member place content]
  have different : (members.map Prod.fst).Nodup := by simp [members, member, apart]
  have fields : (object members).record? [label, place] =
      some [some (.text name), some content] := by
    rw [record?_object (by simp [members, member]) different]
    simp [members, member, List.lookup_cons, beq_false_of_ne apart.symm]
  have word : (Json.text name).word? names id = some name := find?_name known fun _ _ => id
  simp only [labelled?, members] at fields ⊢
  simp [fields, word]

theorem tagged?_members {label : String} (known : name ∈ names)
    {members : List (Option String × Json)} (absent : ∀ member ∈ members, member.1 ≠ some label) :
    tagged? label names (member label (.text name) :: members) = some (name, members) := by
  have first : field? (member label (.text name) :: members) label = some (some (.text name)) := by
    simp [field?, member, filter_eq_nil absent]
  have rest : (member label (.text name) :: members).filter (fun member => member.1 ≠ some label) =
      members := by
    rw [List.filter_cons, filter_eq_self absent]
    simp [member]
  have found : names.find? (fun other => id other = id name) = some name :=
    find?_name known fun _ _ => id
  have tag : (Json.text name).tag? names = some name := found
  simp only [tagged?, first, rest]
  simp [tag]

end

theorem flattened?_object (names : List String) {members : List (Option String × Json)}
    (plain : Plain (nestingLimit - 1) (.object members)) (apart : (members.map Prod.fst).Nodup) :
    (object members).flattened? names =
      some (names.map fun name => members.lookup (some name),
        members.filter fun member => ∀ name ∈ names, member.1 ≠ some name) := by
  let others := members.filter fun member => ∀ name ∈ names, member.1 ≠ some name
  have readable : membersReadable (nestingLimit - 2) others = true := by
    obtain ⟨named, each⟩ := plain.of_object
    apply Plain.membersReadable
    · exact fun member inside => named member (List.mem_of_mem_filter inside)
    · exact fun member inside => (each member (List.mem_of_mem_filter inside)).isReadable
  have passes : guard (membersReadable (nestingLimit - 2) others = true) = some () :=
    if_pos readable
  simp only [flattened?, mapM_field? apart, Option.bind_eq_bind, Option.bind_some, ↓passes, others]
  rfl

/-- The codec of the program keeps the rules that streams rely on. -/
theorem Codec.standard_lawful : standard.Lawful where
  read?_write plain := plain.read?_render
  read?_writePretty plain := plain.read?_renderPretty
  text?_text _ := rfl
  bool?_bool _ := rfl
  int64?_ofInt := Json.int64?_ofInt
  size?_ofNat := below?_ofNat
  byte?_ofNat := Json.byte?_ofNat
  list?_array _ _ := rfl
  optional?_none _ := rfl
  optional?_some read json given := by
    cases json <;> first | rfl | exact absurd rfl given
  withDefault?_some _ _ _ := rfl
  word?_toJson := Vocabulary.find?_name
  record?_object names _ named apart := Json.record?_object named apart names
  variant?_object known _ := if_pos known
  labelled?_object apart _ _ known := Json.labelled?_object apart known
  flattened?_object := Json.flattened?_object
  tagged?_members known := Json.tagged?_members known
  fields?_members names _ apart := mapM_field? apart names

end Json

end Custody
