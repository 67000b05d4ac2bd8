import Custody.Proofs.Histories
import Custody.Proofs.Keys

/-!
# Finite maps

Under the hashed perspective a push lands on the slot that carries its key, or else at the head, and
a pop or a peek finds its slots by their keys.  Positions shift as slots are removed, but the keys
stay distinct.  So a keyed container that only names of this perspective use is a finite map: under
a key it holds the value of the last push under that key, unless a pop has named the key since.
-/

namespace Custody

/-! ## Slots by their keys -/

namespace Content

variable {content : Content} {key : Value} {position : Nat} {slot : Slot}

/-- Where the keys are distinct, a key is found at the slot that carries it. -/
theorem positionOf?_eq_some_iff (distinct : content.keys.Nodup) :
    content.positionOf? key = some position ↔ content.keyAt? position = some key := by
  have carried : ∀ {place}, content.positionOf? key = some place →
      content.keyAt? place = some key := by
    intro place found
    obtain ⟨slot, there, named⟩ := exists_of_positionOf? found
    rw [keyAt?, there, Option.bind_some, named]
  refine ⟨carried, fun here => ?_⟩
  cases found : content.positionOf? key with
  | none =>
    obtain ⟨slot, there, named⟩ := Option.bind_eq_some_iff.mp here
    exact (positionOf?_eq_none.mp found
      (mem_keys.mpr ⟨slot, List.mem_of_getElem? there, named⟩)).elim
  | some place =>
    exact congrArg some (keysUnique_iff.mpr distinct place position key key (carried found) here
      ((Value.sameKey_eq_true ..).mpr rfl))

/-- A replacement of the slot with a key leaves the slots at the other positions. -/
theorem mem_insert_replace (here : content.keyAt? position = some key) (value : Option Value) :
    slot ∈ content.insert (.replace position) ⟨value, some key⟩ ↔
      slot = ⟨value, some key⟩ ∨ ∃ place, place ≠ position ∧ content[place]? = some slot := by
  obtain ⟨old, there, named⟩ := Option.bind_eq_some_iff.mp here
  have replaced : (content.insert (.replace position) ⟨value, some key⟩)[position]? =
      some ⟨value, some key⟩ := by
    rw [insert_replace]
    simp [there, named]
  have kept {place : Nat} (different : place ≠ position) :
      (content.insert (.replace position) ⟨value, some key⟩)[place]? = content[place]? := by
    rw [insert_replace]
    simp [Ne.symm different]
  constructor
  · intro member
    obtain ⟨place, stands⟩ := List.mem_iff_getElem?.mp member
    by_cases same : place = position
    · rw [same, replaced] at stands
      exact .inl (Option.some.inj stands).symm
    · exact .inr ⟨place, same, kept same ▸ stands⟩
  · rintro (rfl | ⟨place, different, stands⟩)
    · exact List.mem_of_getElem? replaced
    · exact List.mem_of_getElem? ((kept different).trans stands)

/-- A push under a key leaves one slot with that key, and the others. -/
theorem mem_insert_placementOf (distinct : content.keys.Nodup) (value : Option Value) :
    slot ∈ content.insert (content.placementOf key) ⟨value, some key⟩ ↔
      slot = ⟨value, some key⟩ ∨ slot ∈ content ∧ slot.key ≠ some key := by
  rw [placementOf]
  cases found : content.positionOf? key with
  | none =>
    have other : slot ∈ content → slot.key ≠ some key := fun member named =>
      positionOf?_eq_none.mp found (mem_keys.mpr ⟨slot, member, named⟩)
    rw [insert, pushHead, List.mem_append, List.mem_singleton, or_comm]
    exact or_congr_right ⟨fun member => ⟨member, other member⟩, And.left⟩
  | some position =>
    have here := (positionOf?_eq_some_iff distinct).mp found
    -- No other slot carries the key.
    have only {place : Nat} (stands : content[place]? = some slot) :
        place ≠ position ↔ slot.key ≠ some key := by
      rw [not_iff_not]
      constructor
      · rintro rfl
        rwa [keyAt?, stands, Option.bind_some] at here
      · intro named
        have carried : content.keyAt? place = some key := by rwa [keyAt?, stands, Option.bind_some]
        exact Option.some.inj (((positionOf?_eq_some_iff distinct).mpr carried).symm.trans found)
    rw [mem_insert_replace here, List.mem_iff_getElem?]
    refine or_congr_right ⟨?_, ?_⟩
    · rintro ⟨place, different, stands⟩
      exact ⟨⟨place, stands⟩, (only stands).mp different⟩
    · rintro ⟨⟨place, stands⟩, other⟩
      exact ⟨place, (only stands).mpr other, stands⟩

theorem mem_remove {positions : List Nat} :
    slot ∈ (content.remove positions).2 ↔
      ∃ position, content[position]? = some slot ∧ position ∉ positions := by
  rw [remove_eq_slotsAt, mem_slotsAt]
  simp only [List.mem_filter, List.mem_range, decide_eq_true_eq]
  constructor
  · rintro ⟨position, ⟨-, kept⟩, there⟩
    exact ⟨position, there, kept⟩
  · rintro ⟨position, there, kept⟩
    exact ⟨position, ⟨(List.getElem?_eq_some_iff.mp there).1, kept⟩, there⟩

/-- A push under a key keeps the keys distinct. -/
theorem nodup_keys_insert_placementOf (distinct : content.keys.Nodup) (value : Option Value) :
    (content.insert (content.placementOf key) ⟨value, some key⟩).keys.Nodup :=
  @nodup_keys_landing content ⟨value, some key⟩ distinct .head (by simp)

end Content

/-! ## Key sets -/

theorem Check.mem_mapM_iff {ε α β : Type} {check : α → Except ε β} {members : List α}
    {results : List β} (passed : members.mapM check = .ok results) {result : β} :
    result ∈ results ↔ ∃ member ∈ members, check member = .ok result := by
  refine ⟨mem_of_mapM_eq_ok passed, ?_⟩
  induction members generalizing results with
  | nil => simp
  | cons first rest ih =>
    simp only [List.mapM_cons, bind_eq_ok, pure_eq_ok] at passed
    obtain ⟨head, headPassed, tail, tailPassed, rfl⟩ := passed
    rintro ⟨member, listed, memberPassed⟩
    rcases List.mem_cons.mp listed with rfl | later
    · exact List.mem_cons.mpr (.inl (Except.ok.inj (memberPassed.symm.trans headPassed)))
    · exact List.mem_cons_of_mem _ (ih tailPassed ⟨member, later, memberPassed⟩)

/-- A check of every member passes exactly when it passes for each. -/
theorem Check.exists_mapM_eq_ok_iff {ε α β : Type} {check : α → Except ε β} {members : List α} :
    (∃ results, members.mapM check = .ok results) ↔
      ∀ member ∈ members, ∃ result, check member = .ok result := by
  induction members with
  | nil => simp
  | cons first rest ih =>
    simp only [List.mapM_cons, bind_eq_ok, pure_eq_ok, List.forall_mem_cons, ← ih]
    constructor
    · rintro ⟨_, head, headPassed, tail, tailPassed, -⟩
      exact ⟨⟨head, headPassed⟩, tail, tailPassed⟩
    · rintro ⟨⟨head, headPassed⟩, tail, tailPassed⟩
      exact ⟨_, head, headPassed, tail, tailPassed, rfl⟩

namespace Container

variable {container : Container} {keyType : Element} {members : List Value} {span : Span}
  {slots : SlotSet}

theorem positionOfKey_eq_ok_iff {key : Value} {position : Nat} :
    container.positionOfKey keyType key span = .ok position ↔
      key.element = keyType ∧ container.content.positionOf? key = some position := by
  simp only [positionOfKey, Check.reject_eq_ok, not_not]
  refine and_congr_right fun _ => ?_
  cases container.content.positionOf? key <;> simp

theorem resolve_keys_eq_ok_iff (keyed : container.key = some keyType) :
    container.resolve (.keys members) span = .ok slots ↔ members ≠ [] ∧
      ∃ positions, members.mapM (container.positionOfKey keyType · span) = .ok positions ∧
        SlotSet.ofList positions = slots := by
  simp only [resolve, keyed, Check.reject_eq_ok, Check.bind_eq_ok, Check.pure_eq_ok,
    List.isEmpty_iff, ne_eq]

/-- A key set is resolved exactly when it has keys and each of them is found. -/
theorem exists_resolve_keys_iff (keyed : container.key = some keyType) :
    (∃ slots, container.resolve (.keys members) span = .ok slots) ↔ members ≠ [] ∧
      ∀ key ∈ members, ∃ position, container.positionOfKey keyType key span = .ok position := by
  simp only [resolve_keys_eq_ok_iff keyed, ← Check.exists_mapM_eq_ok_iff]
  constructor
  · rintro ⟨_, filled, positions, found, -⟩
    exact ⟨filled, positions, found⟩
  · rintro ⟨filled, positions, found⟩
    exact ⟨_, filled, positions, found, rfl⟩

/-- A key set is resolved to the positions of its keys. -/
theorem mem_resolve_keys (keyed : container.key = some keyType)
    (resolved : container.resolve (.keys members) span = .ok slots) {position : Nat} :
    position ∈ slots ↔
      ∃ key ∈ members, container.positionOfKey keyType key span = .ok position := by
  obtain ⟨-, positions, found, rfl⟩ := (resolve_keys_eq_ok_iff keyed).mp resolved
  rw [SlotSet.mem_ofList, Check.mem_mapM_iff found]

/-- A set of one key is resolved to its position. -/
theorem resolve_one (keyed : container.key = some keyType) {key : Value} {position : Nat}
    (filled : members ≠ []) (same : ∀ own ∈ members, own = key)
    (found : container.positionOfKey keyType key span = .ok position) :
    container.resolve (.keys members) span = .ok (.singleton position) := by
  obtain ⟨slots, resolved⟩ : ∃ slots, container.resolve (.keys members) span = .ok slots := by
    refine (exists_resolve_keys_iff keyed).mpr ⟨filled, fun own member => ?_⟩
    rw [same own member]
    exact ⟨position, found⟩
  have one : slots = .singleton position := by
    ext other
    rw [Bool.eq_iff_iff, ← SlotSet.mem_iff, ← SlotSet.mem_iff, SlotSet.mem_singleton,
      mem_resolve_keys keyed resolved]
    constructor
    · rintro ⟨own, member, there⟩
      rw [same own member, found] at there
      exact (Except.ok.inj there).symm
    · rintro rfl
      obtain ⟨own, member⟩ := List.exists_mem_of_ne_nil members filled
      exact ⟨own, member, same own member ▸ found⟩
  rw [resolved, one]

/-- A removal by a key set keeps the slots of the other keys. -/
theorem mem_remove_resolve (keyed : container.key = some keyType)
    (distinct : container.content.keys.Nodup)
    (resolved : container.resolve (.keys members) span = .ok slots) {slot : Slot} {key : Value}
    (named : slot.key = some key) :
    slot ∈ (container.content.remove slots.toList).2 ↔
      slot ∈ container.content ∧ key ∉ members := by
  have carries {position : Nat} (there : container.content[position]? = some slot) :
      container.content.keyAt? position = some key := by
    rw [Content.keyAt?, there]
    exact named
  -- No other slot carries the key, so its position is removed exactly if the key is a member.
  have outside {position : Nat} (there : container.content[position]? = some slot) :
      position ∉ slots ↔ key ∉ members := by
    rw [not_iff_not, mem_resolve_keys keyed resolved]
    simp only [positionOfKey_eq_ok_iff, Content.positionOf?_eq_some_iff distinct, carries there,
      Option.some.injEq]
    constructor
    · rintro ⟨_, member, -, rfl⟩
      exact member
    · intro member
      obtain ⟨place, found⟩ :=
        ((exists_resolve_keys_iff keyed).mp ⟨slots, resolved⟩).2 key member
      exact ⟨key, member, (positionOfKey_eq_ok_iff.mp found).1, rfl⟩
  rw [Content.mem_remove, List.mem_iff_getElem?]
  simp only [SlotSet.mem_toList]
  constructor
  · rintro ⟨position, there, kept⟩
    exact ⟨⟨position, there⟩, (outside there).mp kept⟩
  · rintro ⟨⟨position, there⟩, other⟩
    exact ⟨position, there, (outside there).mpr other⟩

end Container

/-- Peeks and pops of a key set through a name. -/
inductive Operation.Asks (name : String) (members : List Value) : Operation → Prop
  | peek : Asks name members (.peek name (some (.keys members)))
  | pop : Asks name members (.pop name (some (.keys members)))

theorem Operation.Asks.uses {name : String} {members : List Value} {operation : Operation}
    (asks : operation.Asks name members) : operation.Uses name := by
  cases asks with
  | peek => exact .peek _
  | pop => exact .pop _

namespace Access

variable {access : Access} {name : String} {members : List Value} {operation : Operation}
  {span : Span}

theorem removal_keys (hashed : access.binding.perspective = .hashed) :
    access.removal (some (.keys members)) span = access.container.resolve (.keys members) span := by
  simp [removal, hashed]

/-- Peeks and pops of a key set are accepted exactly when it is resolved. -/
theorem exists_answer_iff (hashed : access.binding.perspective = .hashed)
    (asks : operation.Asks name members) :
    (∃ result, access.answer operation span = .ok result) ↔
      ∃ slots, access.container.resolve (.keys members) span = .ok slots := by
  cases asks with
  | peek =>
    simp only [answer, reading]
    cases access.container.resolve (.keys members) span <;> simp
  | pop =>
    simp only [answer, removal_keys hashed]
    cases access.container.resolve (.keys members) span <;> simp

/-- Peeks and pops of one slot yield its value. -/
theorem answer_singleton (hashed : access.binding.perspective = .hashed)
    (asks : operation.Asks name members) {position : Nat} {slot : Slot}
    (resolved : access.container.resolve (.keys members) span = .ok (.singleton position))
    (there : access.container.content[position]? = some slot) :
    ∃ after, access.answer operation span = .ok (after, [slot.value]) := by
  cases asks with
  | peek =>
    refine ⟨access.container.content, ?_⟩
    simp [answer, reading, resolved, SlotSet.toList_singleton, there]
  | pop =>
    rw [← removal_keys hashed] at resolved
    refine ⟨access.container.content.eraseIdx position, ?_⟩
    rw [answer_pop resolved, Content.remove_one, there]
    rfl

/-- Where a push lands under the hashed perspective. -/
theorem placement_eq_ok_iff (hashed : access.binding.perspective = .hashed) {key : Option Value}
    {planned : Placement} :
    access.placement key span = .ok planned ↔ ∃ own, key = some own ∧
      access.container.key = some own.element ∧
      access.container.content.placementOf own = planned := by
  cases key with
  | none => simp [Access.placement, hashed]
  | some own =>
    cases keyed : access.container.key with
    | none => simp [Access.placement, hashed, keyed]
    | some keyType =>
      simp only [Access.placement, hashed, keyed, Check.reject_eq_ok, not_not, Option.some.injEq,
        Except.ok.injEq, exists_eq_left']
      exact and_congr_left' eq_comm

end Access

/-! ## What a history stores -/

/-- A push makes one thing of a value. -/
theorem Value.Converts.unique {value : Value} {conversion : Option Conversion} {target : Element}
    {first second : Option Value} (converts : value.Converts conversion target first)
    (again : value.Converts conversion target second) : first = second := by
  have passed := (@convertFor_eq_ok_iff _ _ _ {} _).mpr converts
  rw [convertFor_eq_ok_iff.mpr again] at passed
  exact (Except.ok.inj passed).symm

namespace AnnotatedNode

/-- An accepted push of a literal under a key, with what is made of the literal. -/
def Puts (turn : AnnotatedNode) (element : Element) (key : Value) (value : Option Value) : Prop :=
  turn.verdict.ok = true ∧ ∃ name literal own conversion,
    turn.node.operation = .push name (.value literal) (some own) conversion ∧
      own.sameKey key = true ∧ literal.Converts conversion element value

/-- An accepted pop that names a key. -/
def Drops (turn : AnnotatedNode) (key : Value) : Prop :=
  turn.verdict.ok = true ∧ ∃ name members,
    turn.node.operation = .pop name (some (.keys members)) ∧
      ∃ own ∈ members, own.sameKey key = true

/-- A turn that puts something under a key or drops the key. -/
def Touches (turn : AnnotatedNode) (element : Element) (key : Value) : Prop :=
  turn.Drops key ∨ ∃ value, turn.Puts element key value

variable {verdict : Verdict} {element : Element} {key : Value} {value : Option Value} {span : Span}
  {name : String} {node : Node}

theorem puts_push {literal own : Value} {conversion : Option Conversion}
    {converted : Option Value} (accepted : verdict.ok = true)
    (converts : literal.Converts conversion element converted) :
    (⟨⟨.push name (.value literal) (some own) conversion, span⟩, verdict⟩ : AnnotatedNode).Puts
      element key value ↔ key = own ∧ value = converted := by
  constructor
  · rintro ⟨-, _, _, _, _, same, named, makes⟩
    cases same
    exact ⟨((Value.sameKey_eq_true ..).mp named).symm, makes.unique converts⟩
  · rintro ⟨rfl, rfl⟩
    exact ⟨accepted, _, _, _, _, rfl, (Value.sameKey_eq_true ..).mpr rfl, converts⟩

theorem drops_pop {members : List Value} (accepted : verdict.ok = true) :
    (⟨⟨.pop name (some (.keys members)), span⟩, verdict⟩ : AnnotatedNode).Drops key ↔
      key ∈ members := by
  constructor
  · rintro ⟨-, _, _, same, own, member, named⟩
    cases same
    exact (Value.sameKey_eq_true ..).mp named ▸ member
  · intro member
    exact ⟨accepted, _, _, rfl, key, member, (Value.sameKey_eq_true ..).mpr rfl⟩

theorem not_puts_of_rejected (rejected : verdict.ok = false) :
    ¬(⟨node, verdict⟩ : AnnotatedNode).Puts element key value := by
  rintro ⟨accepted, -⟩
  simp [rejected] at accepted

theorem not_drops_of_rejected (rejected : verdict.ok = false) :
    ¬(⟨node, verdict⟩ : AnnotatedNode).Drops key := by
  rintro ⟨accepted, -⟩
  simp [rejected] at accepted

end AnnotatedNode

/-- The value of the last push under a key, with no pop of the key since. -/
def Stored (element : Element) (history : List AnnotatedNode) (key : Value)
    (value : Option Value) : Prop :=
  ∃ early put late, history = early ++ put :: late ∧ put.Puts element key value ∧
    ∀ turn ∈ late, ¬turn.Touches element key

/-- A turn stores what it puts and leaves the keys that it does not touch. -/
theorem stored_concat {element : Element} {history : List AnnotatedNode} {turn : AnnotatedNode}
    {key : Value} {value : Option Value} :
    Stored element (history ++ [turn]) key value ↔ turn.Puts element key value ∨
      Stored element history key value ∧ ¬turn.Touches element key := by
  constructor
  · rintro ⟨early, put, late, same, puts, untouched⟩
    -- The last turn is the push itself, or one behind it.
    rcases List.eq_nil_or_concat late with rfl | ⟨late, last, rfl⟩
    · obtain ⟨-, last⟩ := List.append_inj' same rfl
      obtain rfl := List.singleton_inj.mp last
      exact .inl puts
    · have split : history ++ [turn] = (early ++ put :: late) ++ [last] := by
        rw [same, List.concat_eq_append, List.append_assoc, List.cons_append]
      obtain ⟨rfl, ends⟩ := List.append_inj' split rfl
      obtain rfl := List.singleton_inj.mp ends
      refine .inr ⟨⟨early, put, late, rfl, puts, fun turn member => ?_⟩, ?_⟩
      · exact untouched turn (by simp [member])
      · exact untouched turn (by simp)
  · rintro (puts | ⟨⟨early, put, late, rfl, puts, untouched⟩, last⟩)
    · exact ⟨history, turn, [], rfl, puts, by simp⟩
    · refine ⟨early, put, late ++ [turn], by simp, puts, ?_⟩
      simpa [or_imp, forall_and] using ⟨untouched, last⟩

/-! ## Turns of a content -/

/-- A content that is the finite map of a history. -/
structure Mapped (keyType element : Element) (content : Content) (history : List AnnotatedNode) :
    Prop where
  keyed : ∀ slot ∈ content, ∃ key, slot.key = some key ∧ key.element = keyType
  distinct : content.keys.Nodup
  stored : ∀ key value, (⟨value, some key⟩ : Slot) ∈ content ↔ Stored element history key value

namespace Mapped

variable {keyType element : Element} {container : Container} {content after : Content}
  {history : List AnnotatedNode} {turn : AnnotatedNode} {key : Value} {value : Option Value}

theorem nil (keyType element : Element) : Mapped keyType element [] [] where
  keyed := by simp
  distinct := List.nodup_nil
  stored := by simp [Stored]

/-- A turn that touches no key keeps the map. -/
theorem untouched (mapped : Mapped keyType element content history)
    (drops : ∀ key, ¬turn.Drops key) (puts : ∀ key value, ¬turn.Puts element key value) :
    Mapped keyType element content (history ++ [turn]) where
  keyed := mapped.keyed
  distinct := mapped.distinct
  stored := by
    intro key value
    rw [mapped.stored, stored_concat]
    simp [AnnotatedNode.Touches, drops, puts]

/-- A push under a key stores its value there. -/
theorem put (mapped : Mapped keyType element content history) {own : Value}
    {converted : Option Value} (typed : own.element = keyType) (drops : ∀ key, ¬turn.Drops key)
    (puts : ∀ key value, turn.Puts element key value ↔ key = own ∧ value = converted) :
    Mapped keyType element (content.insert (content.placementOf own) ⟨converted, some own⟩)
      (history ++ [turn]) where
  keyed := by
    intro slot member
    rcases (Content.mem_insert_placementOf mapped.distinct _).mp member with rfl | ⟨member, -⟩
    · exact ⟨own, rfl, typed⟩
    · exact mapped.keyed slot member
  distinct := Content.nodup_keys_insert_placementOf mapped.distinct _
  stored := by
    intro key value
    rw [Content.mem_insert_placementOf mapped.distinct, stored_concat, mapped.stored]
    simp [AnnotatedNode.Touches, drops, puts, and_comm]

/-- A pop of a key set leaves the other keys. -/
theorem drop (mapped : Mapped keyType element content history) {members : List Value}
    (puts : ∀ key value, ¬turn.Puts element key value)
    (drops : ∀ key, turn.Drops key ↔ key ∈ members) (part : after.Sublist content)
    (kept : ∀ {slot key}, slot.key = some key →
      (slot ∈ after ↔ slot ∈ content ∧ key ∉ members)) :
    Mapped keyType element after (history ++ [turn]) where
  keyed := fun slot member => mapped.keyed slot (part.subset member)
  distinct := mapped.distinct.sublist (Content.keys_sublist part)
  stored := by
    intro key value
    rw [kept rfl, mapped.stored, stored_concat]
    simp [AnnotatedNode.Touches, drops, puts]

/-- Something is stored under the keys of the content. -/
theorem exists_stored_iff (mapped : Mapped keyType element content history) :
    (∃ value, Stored element history key value) ↔ key ∈ content.keys := by
  simp only [← mapped.stored, Content.mem_keys]
  constructor
  · rintro ⟨value, member⟩
    exact ⟨_, member, rfl⟩
  · rintro ⟨⟨value, _⟩, member, rfl⟩
    exact ⟨value, member⟩

theorem length_keys (mapped : Mapped keyType element content history) :
    content.keys.length = content.length := by
  refine List.filterMap_length_eq_length.mpr fun slot member => ?_
  obtain ⟨key, named, -⟩ := mapped.keyed slot member
  rw [named]
  rfl

/-- A key under which something is stored is found, at a slot that holds it. -/
theorem positionOfKey_of_stored (mapped : Mapped keyType element container.content history)
    (stored : Stored element history key value) (span : Span) :
    ∃ position, container.content[position]? = some ⟨value, some key⟩ ∧
      container.positionOfKey keyType key span = .ok position := by
  have member := (mapped.stored key value).mpr stored
  obtain ⟨position, there⟩ := List.mem_iff_getElem?.mp member
  obtain ⟨_, ⟨⟩, typed⟩ := mapped.keyed _ member
  refine ⟨position, there, Container.positionOfKey_eq_ok_iff.mpr ⟨typed, ?_⟩⟩
  apply (Content.positionOf?_eq_some_iff mapped.distinct).mpr
  rw [Content.keyAt?, there]
  rfl

/-- A key is found exactly when something is stored under it. -/
theorem exists_positionOfKey_iff (mapped : Mapped keyType element container.content history)
    {span : Span} :
    (∃ position, container.positionOfKey keyType key span = .ok position) ↔
      ∃ value, Stored element history key value := by
  constructor
  · rintro ⟨position, found⟩
    obtain ⟨-, here⟩ := Container.positionOfKey_eq_ok_iff.mp found
    by_contra absent
    rw [mapped.exists_stored_iff, ← Content.positionOf?_eq_none] at absent
    cases here.symm.trans absent
  · rintro ⟨value, stored⟩
    obtain ⟨position, -, found⟩ := mapped.positionOfKey_of_stored stored span
    exact ⟨position, found⟩

end Mapped

namespace Access

variable {access : Access} {keyType : Element} {content after : Content}
  {history : List AnnotatedNode} {verdict : Verdict} {name : String} {span : Span}

theorem mapped_push (hashed : access.binding.perspective = .hashed)
    (keyed : access.container.key = some keyType) {literal : Value} {key : Option Value}
    {conversion : Option Conversion}
    (mapped : Mapped keyType access.container.element content history)
    (answered : (access.holding content).answer (.push name (.value literal) key conversion) span =
      .ok (after, verdict.values)) (accepted : verdict.ok = true) :
    Mapped keyType access.container.element after
      (history ++ [⟨⟨.push name (.value literal) key conversion, span⟩, verdict⟩]) := by
  simp only [answer, Check.bind_eq_ok, Check.pure_eq_ok, Prod.mk.injEq] at answered
  obtain ⟨converted, makes, placement, placed, rfl, -⟩ := answered
  obtain ⟨own, rfl, fits, rfl⟩ :=
    (@placement_eq_ok_iff (access.holding content) _ hashed _ _).mp placed
  have typed : own.element = keyType := Option.some.inj (fits.symm.trans keyed)
  refine mapped.put typed ?_ fun _ _ =>
    AnnotatedNode.puts_push accepted (Value.convertFor_eq_ok_iff.mp makes)
  rintro _ ⟨-, _, _, same, -⟩
  cases same

theorem mapped_pop (hashed : access.binding.perspective = .hashed)
    (keyed : access.container.key = some keyType) {extent : Option Extent}
    (mapped : Mapped keyType access.container.element content history)
    (answered : (access.holding content).answer (.pop name extent) span =
      .ok (after, verdict.values)) (accepted : verdict.ok = true) :
    Mapped keyType access.container.element after
      (history ++ [⟨⟨.pop name extent, span⟩, verdict⟩]) := by
  have hashed : (access.holding content).binding.perspective = .hashed := hashed
  simp only [answer, Check.bind_eq_ok, Check.pure_eq_ok, Prod.mk.injEq] at answered
  obtain ⟨slots, removed, rfl, -⟩ := answered
  cases extent with
  | none => simp [removal, hashed] at removed
  | some extent =>
    cases extent with
    | range low high => simp [removal, hashed] at removed
    | keys members =>
      rw [removal_keys hashed] at removed
      refine mapped.drop ?_ (fun key => AnnotatedNode.drops_pop accepted)
        (Content.remove_sublist ..) fun named => ?_
      · rintro _ _ ⟨-, _, _, _, _, same, -⟩
        cases same
      · exact @Container.mem_remove_resolve (access.holding content).container _ _ _ _ keyed
          mapped.distinct removed _ _ named

/-- Uses under the hashed perspective keep a content the map of its history. -/
theorem keeps_mapped (hashed : access.binding.perspective = .hashed)
    (keyed : access.container.key = some keyType) {node : Node} (uses : node.operation.Uses name) :
    access.Keeps (Mapped keyType access.container.element) node where
  rejected := by
    intro content history verdict mapped rejected
    exact mapped.untouched (fun _ => AnnotatedNode.not_drops_of_rejected rejected)
      (fun _ _ => AnnotatedNode.not_puts_of_rejected rejected)
  accepted := by
    intro content after history verdict mapped answered accepted
    obtain ⟨operation, span⟩ := node
    cases uses with
    | push value key conversion => exact mapped_push hashed keyed mapped answered accepted
    | pop extent => exact mapped_pop hashed keyed mapped answered accepted
    | peek extent =>
      simp only [answer, Check.bind_eq_ok, Check.pure_eq_ok, Prod.mk.injEq] at answered
      obtain ⟨slots, -, rfl, -⟩ := answered
      refine mapped.untouched ?_ ?_
      · rintro _ ⟨-, _, _, same, -⟩
        cases same
      · rintro _ _ ⟨-, _, _, _, _, same, -⟩
        cases same

end Access

/-! ## Runs -/

/-- A name through which a container is used by key, with nothing in the way. -/
def State.Indexes (state : State) (name : String) (container : Container) : Prop :=
  ∃ access, state.Unhindered name access ∧ access.container = container ∧
    access.binding.perspective = .hashed

/-- A container that is, through a name, the finite map of its history. -/
structure FiniteMap (id : ContainerId) (keyType element : Element) (name : String)
    (history : List AnnotatedNode) (state : State) : Prop where
  /-- A key set is peeked and popped exactly when something is stored under each of its keys. -/
  finds : ∀ {operation members}, operation.Asks name members → ∀ span,
    ((state.perform operation span).verdict.ok = true ↔
      members ≠ [] ∧ ∀ key ∈ members, ∃ value, Stored element history key value)
  /-- Of a set of one key, what is stored under the key is reported. -/
  reports : ∀ {operation members key value}, operation.Asks name members → members ≠ [] →
    (∀ own ∈ members, own.sameKey key = true) → Stored element history key value →
    ∀ span, (state.perform operation span).verdict.values = [value]
  distinct : (state.content id).KeysUnique
  /-- There are as many slots as keys under which something is stored. -/
  counted : ∃ present : List Value, present.Nodup ∧
    (∀ key, key ∈ present ↔ ∃ value, Stored element history key value) ∧
    (state.content id).length = present.length
  /-- A rejected pop removes nothing. -/
  refused : ∀ extent span, (state.perform (.pop name extent) span).verdict.ok = false →
    (state.perform (.pop name extent) span).state = state
  /-- A value of the element type is pushed as it is under every key of the key type. -/
  pushes : ∀ {key value : Value}, key.element = keyType → value.element = element → ∀ span,
    (state.perform (.push name (.value value) (some key) none) span).verdict.ok = true ∧
      (state.perform (.push name (.value value) (some key) none) span).verdict.values = [some value]

/-- A container is a finite map when its content is the map of a history. -/
theorem Mapped.finiteMap {state : State} {name : String} {access : Access}
    {history : List AnnotatedNode} {keyType : Element}
    (mapped : Mapped keyType access.container.element access.container.content history)
    (free : state.Unhindered name access) (sound : state.Sound)
    (hashed : access.binding.perspective = .hashed) (keyed : access.container.key = some keyType) :
    FiniteMap access.container.id keyType access.container.element name history state where
  finds := by
    intro operation members asks span
    rw [(free.settles sound asks.uses span).ok_iff, Access.exists_answer_iff hashed asks,
      Container.exists_resolve_keys_iff keyed]
    simp only [mapped.exists_positionOfKey_iff]
  reports := by
    intro operation members key value asks filled same stored span
    obtain ⟨position, there, found⟩ := mapped.positionOfKey_of_stored stored span
    have resolved := Container.resolve_one keyed filled
      (fun own member => (Value.sameKey_eq_true ..).mp (same own member)) found
    obtain ⟨after, answered⟩ := Access.answer_singleton hashed asks resolved there
    have settled := free.settles sound asks.uses span
    rw [answered] at settled
    exact settled.2.2
  distinct := by
    rw [(free.reaches sound).content]
    exact Content.keysUnique_iff.mpr mapped.distinct
  counted := by
    rw [(free.reaches sound).content]
    exact ⟨_, mapped.distinct, fun key => mapped.exists_stored_iff.symm, mapped.length_keys.symm⟩
  refused := by
    intro extent span rejected
    exact (free.settles sound (.pop extent) span).state_of_rejected rejected
  pushes := by
    intro key value fits typed span
    rw [← fits] at keyed
    have placed := (@Access.placement_eq_ok_iff access span hashed _ _).mpr ⟨key, rfl, keyed, rfl⟩
    exact free.accepts_push sound placed typed

namespace Verification

/-- An empty keyed container that only names of the hashed perspective use is a finite map. -/
theorem uses_as_map (nodes : List Node) {container : Container} {keyType : Element}
    (keyed : container.key = some keyType) (empty : container.content = []) {turns : List Node}
    (each : ∀ node ∈ turns, ∃ name, (run {} nodes).state.Indexes name container ∧
      node.operation.Uses name)
    {name : String} (indexes : (run {} nodes).state.Indexes name container) :
    FiniteMap container.id keyType container.element name (later nodes turns)
      (run {} (nodes ++ turns)).state := by
  obtain ⟨access, free, rfl, hashed⟩ := indexes
  have start : Mapped keyType access.container.element access.container.content [] := by
    rw [empty]
    exact Mapped.nil ..
  have keeps : ∀ node ∈ turns, ∃ name other, (run {} nodes).state.Unhindered name other ∧
      other.container = access.container ∧ node.operation.Uses name ∧
      other.Keeps (Mapped keyType access.container.element) node := by
    intro node member
    obtain ⟨name, ⟨other, otherFree, same, otherHashed⟩, uses⟩ := each node member
    refine ⟨name, other, otherFree, same, uses, ?_⟩
    rw [← same] at keyed ⊢
    exact Access.keeps_mapped otherHashed keyed uses
  obtain ⟨content, same, mapped⟩ :=
    run_history (free.reaches (run_sound nodes)).container start keeps
  have held := free.holding (run_sound nodes) content
  have sound := run_sound (nodes ++ turns)
  rw [same] at sound ⊢
  exact @Mapped.finiteMap _ _ (access.holding content) _ _ mapped held sound hashed keyed

/-- A run that binds a container to two names by key, next to a container that is lent. -/
def twoIndexes : List Node :=
  [⟨.declare "prices" .integer (some .float) .owned, {}⟩,
    ⟨.bind "p" "prices" (some .hashed), {}⟩, ⟨.bind "q" "prices" (some .hashed), {}⟩,
    ⟨.declare "log" .string none .owned, {}⟩, ⟨.bind "l" "log" none, {}⟩,
    ⟨.push "l" (.value (.string "start")) none none, {}⟩,
    ⟨.borrow "view" "l" (.range 0 0) .mutable, {}⟩]

/-- Pushes under both zeros, the first of them overwritten, and pops of which one names a key that
is absent and one names its key twice. -/
def sixTurns : List Node :=
  [⟨.push "p" (.value (.integer 1)) (some (.float ⟨0⟩)) none, {}⟩,
    ⟨.push "q" (.value (.integer 2)) (some (.float ⟨0x8000000000000000⟩)) none, {}⟩,
    ⟨.push "q" (.value (.integer 3)) (some (.float ⟨0x7FF8000000000000⟩)) none, {}⟩,
    ⟨.push "q" (.value (.integer 4)) (some (.float ⟨0⟩)) none, {}⟩,
    ⟨.pop "p" (some (.keys [.float ⟨0⟩, .float ⟨1⟩])), {}⟩,
    ⟨.pop "p" (some (.keys [.float ⟨0x8000000000000000⟩, .float ⟨0x8000000000000000⟩])), {}⟩]

/-- The turns through the two names. -/
theorem uses_as_map_six :
    ∃ container, container.key = some .float ∧ container.content = [] ∧
      (run {} twoIndexes).state.Indexes "p" container ∧
      (run {} twoIndexes).state.Indexes "q" container ∧
      (later twoIndexes sixTurns).map (·.verdict.ok) = [true, true, true, true, false, true] ∧
      ((run {} (twoIndexes ++ sixTurns)).state.content container.id).map (·.value) =
        [some (.integer 4), some (.integer 3)] ∧
      FiniteMap container.id .float container.element "p" (later twoIndexes sixTurns)
        (run {} (twoIndexes ++ sixTurns)).state := by
  have first : (run {} twoIndexes).state.reach? "p" = some _ := rfl
  have second : (run {} twoIndexes).state.reach? "q" = some _ := rfl
  have byFirst : (run {} twoIndexes).state.Indexes "p" _ :=
    ⟨_, ⟨first, rfl, rfl, by decide, by decide⟩, rfl, rfl⟩
  have bySecond : (run {} twoIndexes).state.Indexes "q" _ :=
    ⟨_, ⟨second, rfl, rfl, by decide, by decide⟩, rfl, rfl⟩
  refine ⟨_, rfl, rfl, byFirst, bySecond, by decide, by decide,
    uses_as_map twoIndexes rfl rfl ?_ byFirst⟩
  intro node member
  simp only [sixTurns, List.mem_cons, List.not_mem_nil, or_false] at member
  rcases member with rfl | rfl | rfl | rfl | rfl | rfl
  · exact ⟨"p", byFirst, .push ..⟩
  · exact ⟨"q", bySecond, .push ..⟩
  · exact ⟨"q", bySecond, .push ..⟩
  · exact ⟨"q", bySecond, .push ..⟩
  · exact ⟨"p", byFirst, .pop ..⟩
  · exact ⟨"p", byFirst, .pop ..⟩

end Verification

end Custody
