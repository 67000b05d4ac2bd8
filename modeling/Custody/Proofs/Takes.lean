import Custody.Proofs.Runs

/-!
# What a take leaves behind

A take is meant to add all slots at the head or at the tail, by the perspective of its target, and
to overwrite nothing that somebody else has borrowed.  Under the fifo and the hashed perspective it
does.  Under the lifo perspective a slot that brings along a key which the target, or a slot taken
before it, carries already does not land at the head but overwrites the one with its key, whoever
has borrowed that; only without such slots the take does what it is meant to.
-/

namespace Custody

namespace Content

/-! ## Slots that land one after another -/

/-- The content after planned slots have landed, one after another. -/
def landAll (content : Content) : List (Placement × Slot) → Content
  | [] => content
  | (planned, slot) :: rest => landAll (content.insert (content.landing planned slot) slot) rest

theorem length_insert_le (content : Content) (placement : Placement) (slot : Slot) :
    (content.insert placement slot).length ≤ content.length + 1 := by
  cases placement <;> simp

theorem length_landAll_le (content : Content) (planned : List (Placement × Slot)) :
    (content.landAll planned).length ≤ content.length + planned.length := by
  induction planned generalizing content with
  | nil => exact Nat.le_refl _
  | cons first rest ih =>
      have later := ih (content.insert (content.landing first.1 first.2) first.2)
      have now := content.length_insert_le (content.landing first.1 first.2) first.2
      rw [landAll, List.length_cons]
      omega

/-- No slot brings along a key that the content, or a slot before it, carries. -/
def Unclaimed (content : Content) (slots : List Slot) : Prop :=
  ∀ earlier slot later, slots = earlier ++ slot :: later → ∀ key, slot.key = some key →
    ∀ other ∈ content ++ earlier, hasKey key other = false

theorem unclaimed_cons {content : Content} {slot : Slot} {rest : List Slot} :
    content.Unclaimed (slot :: rest) ↔
      (∀ key, slot.key = some key → content.positionOf? key = none) ∧
        Unclaimed (content ++ [slot]) rest := by
  constructor
  · intro unclaimed
    refine ⟨?_, ?_⟩
    · intro key named
      rw [positionOf?, List.findIdx?_eq_none_iff]
      intro other member
      exact unclaimed [] slot rest rfl key named other (by simpa using member)
    · intro earlier next later split key named other member
      refine unclaimed (slot :: earlier) next later (by rw [split]; rfl) key named other ?_
      simpa using member
  · rintro ⟨first, others⟩ earlier next later split key named other member
    cases earlier with
    | nil =>
        obtain ⟨rfl, rfl⟩ := List.cons.inj split
        exact List.findIdx?_eq_none_iff.mp (first key named) other (by simpa using member)
    | cons head tail =>
        obtain ⟨rfl, rfl⟩ := List.cons.inj split
        exact others tail next later rfl key named other (by simpa using member)

/-- A slot that is planned for the head lands there unless its key is there already. -/
theorem landing_head (content : Content) (slot : Slot) :
    content.landing .head slot = .head ∧
        (∀ key, slot.key = some key → content.positionOf? key = none) ∨
      ∃ key position, slot.key = some key ∧ content.positionOf? key = some position ∧
        content.landing .head slot = .replace position := by
  cases named : slot.key with
  | none => exact .inl ⟨by simp only [landing, named], nofun⟩
  | some key =>
      cases found : content.positionOf? key with
      | none =>
          refine .inl ⟨by simp only [landing, named, placementOf, found], ?_⟩
          intro other same
          rw [← Option.some.inj same]
          exact found
      | some position =>
          exact .inr ⟨key, position, rfl, found, by simp only [landing, named, placementOf, found]⟩

/-- Slots that are planned for the head are appended exactly when their keys are unclaimed. -/
theorem landAll_head_eq_append {content : Content} {slots : List Slot} :
    content.landAll (slots.map fun slot => (.head, slot)) = content ++ slots ↔
      content.Unclaimed slots := by
  induction slots generalizing content with
  | nil =>
      refine iff_of_true (List.append_nil content).symm ?_
      rintro (_ | _) _ _ split <;> contradiction
  | cons slot rest ih =>
      rw [unclaimed_cons, List.map_cons, landAll]
      rcases content.landing_head slot with ⟨lands, free⟩ | ⟨key, position, named, found, lands⟩
      · rw [lands, ← ih, List.append_assoc]
        exact ⟨fun appended => ⟨free, appended⟩, And.right⟩
      · -- One slot fewer than there should be is left.
        rw [lands]
        refine iff_of_false ?_ ?_
        · intro appended
          have length := congrArg List.length appended
          have bound := length_landAll_le (content.insert (.replace position) slot)
            (rest.map fun slot => (.head, slot))
          rw [length_insert_replace, List.length_map] at bound
          rw [List.length_append, List.length_cons] at length
          omega
        · rintro ⟨free, -⟩
          rw [free key named] at found
          contradiction

theorem landAll_tail (content : Content) (slots : List Slot) :
    content.landAll (slots.map fun slot => (.tail, slot)) = slots.reverse ++ content := by
  induction slots generalizing content with
  | nil => rfl
  | cons slot rest ih =>
      rw [List.map_cons, landAll, ih]
      simp [landing, insert, pushTail]

/-- Content whose first slots carry the keys of other content. -/
structure Extends (old content : Content) : Prop where
  length : old.length ≤ content.length
  keys : ∀ position < old.length,
    content[position]?.map (·.key) = old[position]?.map (·.key)

theorem Extends.insert {old content : Content} (extended : old.Extends content)
    {placement : Placement} (unshifted : placement ≠ .tail) (slot : Slot) :
    old.Extends (content.insert placement slot) where
  length := Nat.le_trans extended.length (content.length_le_insert placement slot)
  keys := by
    intro position inside
    rw [← extended.keys position inside]
    by_cases replaced : placement = .replace position
    · rw [replaced, insert_replace]
      simp [Function.comp_def]
    · rw [getElem?_insert (Nat.lt_of_lt_of_le inside extended.length) unshifted replaced]

/-- At the old positions a key is found where it was. -/
theorem Extends.positionOf? {old content : Content} (extended : old.Extends content)
    {key : Value} {position : Nat} (inside : position < old.length)
    (found : content.positionOf? key = some position) : old.positionOf? key = some position := by
  obtain ⟨bound, carries, first⟩ := List.findIdx?_eq_some_iff_getElem.mp found
  have sameKey : ∀ index (here : index < content.length) (there : index < old.length),
      hasKey key content[index] = hasKey key old[index] := by
    intro index here there
    have keys := extended.keys index there
    rw [List.getElem?_eq_getElem here, List.getElem?_eq_getElem there] at keys
    exact congrArg (Option.any fun own => own.sameKey key) (Option.some.inj keys)
  refine List.findIdx?_eq_some_iff_getElem.mpr ⟨inside, ?_, ?_⟩
  · rw [← sameKey position bound inside]
    exact carries
  · intro index lower
    rw [← sameKey index (Nat.lt_trans lower bound) (Nat.lt_trans lower inside)]
    exact first index lower

/-- A planned slot that leaves a position alone: it shifts nothing, is not planned for the position,
and does not bring along the key there. -/
structure PassesBy (old : Content) (position : Nat) (planned : Placement × Slot) : Prop where
  unshifted : planned.1 ≠ .tail
  elsewhere : planned.1 ≠ .replace position
  free : planned.1 = .head → ∀ key, planned.2.key = some key → old.positionOf? key ≠ some position

theorem Extends.landing_ne {old content : Content} (extended : old.Extends content)
    {placement : Placement} {slot : Slot} {position : Nat} (inside : position < old.length)
    (passes : old.PassesBy position (placement, slot)) :
    content.landing placement slot ≠ .tail ∧
      content.landing placement slot ≠ .replace position := by
  cases placement with
  | tail => exact (passes.unshifted rfl).elim
  | replace other => exact ⟨passes.unshifted, passes.elsewhere⟩
  | head =>
      rcases content.landing_head slot with ⟨lands, -⟩ | ⟨key, other, named, found, lands⟩
      · simp [lands]
      · rw [lands]
        refine ⟨by simp, ?_⟩
        intro same
        rw [Placement.replace.inj same] at found
        exact passes.free rfl key named (extended.positionOf? inside found)

/-- Slots that pass a position by leave it as it was, whatever landed before them. -/
theorem getElem?_landAll {old content : Content} (extended : old.Extends content)
    {planned : List (Placement × Slot)} {position : Nat} (inside : position < old.length)
    (passes : ∀ pair ∈ planned, old.PassesBy position pair) :
    (content.landAll planned)[position]? = content[position]? := by
  induction planned generalizing content with
  | nil => rfl
  | cons first rest ih =>
      obtain ⟨placement, slot⟩ := first
      have lands := extended.landing_ne inside (passes (placement, slot) List.mem_cons_self)
      rw [landAll, ih (extended.insert lands.1 slot)
        (fun pair member => passes pair (List.mem_cons_of_mem _ member))]
      exact getElem?_insert (Nat.lt_of_lt_of_le inside extended.length) lands.1 lands.2

/-- A slot that is planned by its key passes by what it does not replace. -/
theorem passesBy_placementOf {old : Content} {position : Nat} {key : Value} {slot : Slot}
    (named : slot.key = some key) (kept : old.placementOf key ≠ .replace position) :
    old.PassesBy position (old.placementOf key, slot) := by
  refine ⟨?_, kept, ?_⟩
  · rw [placementOf]
    split <;> simp
  · intro head other otherNamed
    rw [← Option.some.inj (named.symm.trans otherNamed)]
    intro found
    simp [placementOf, found] at head

end Content

/-! ## Accepted takes -/

/-- The kind of conversion that a push asks for, once the source and the target are known. -/
def Conversion.Resolves (found wanted : Element) : Option Conversion → Option Conversion → Prop
  | none, kind => kind = none
  | some asked, kind => ∃ resolved, asked.resolve found wanted = .ok resolved ∧ kind = some resolved

namespace Access

variable {source target : Access} {span : Span} {slots : List Slot}

/-- Transferred slots are converted as the push asks.  Without a conversion the types agree. -/
theorem convertSlots_eq_ok {effect : Effect} {conversion : Option Conversion} {head : Nat}
    (passed : source.convertSlots target effect conversion head span = .ok slots) :
    ∃ kind, Conversion.Resolves source.container.element target.container.element conversion kind ∧
      (kind = none → source.container.element = target.container.element) ∧
      (if effect = .take then source.container.content
        else (source.container.content[head]?).toList).mapM (convertSlot kind
          source.container.element target.container.element span) = .ok slots := by
  simp only [convertSlots, Check.throw_eq_error, Check.error_bind] at passed
  cases conversion with
  | none =>
      split at passed
      · simp only [Check.reject_eq_ok, not_not] at passed
        exact ⟨none, rfl, fun _ => passed.1, passed.2.2⟩
      · simp only [Check.reject_eq_ok, not_not] at passed
        exact ⟨none, rfl, fun _ => passed.1, passed.2⟩
  | some asked =>
      cases resolves : asked.resolve source.container.element target.container.element with
      | error fault =>
          simp only [resolves] at passed
          split at passed <;> contradiction
      | ok resolved =>
          simp only [resolves] at passed
          split at passed
          · contradiction
          · exact ⟨some resolved, ⟨resolved, resolves, rfl⟩, by simp, passed⟩

/-- A take converts every slot of its source. -/
theorem convertSlots_take {conversion : Option Conversion} {head : Nat}
    (passed : source.convertSlots target .take conversion head span = .ok slots) :
    ∃ kind, Conversion.Resolves source.container.element target.container.element conversion kind ∧
      source.container.content.mapM (convertSlot kind source.container.element
        target.container.element span) = .ok slots := by
  obtain ⟨kind, resolves, -, converts⟩ := convertSlots_eq_ok passed
  exact ⟨kind, resolves, converts⟩

/-- Where the slots of a take are planned to land, by the perspective of its target. -/
theorem takePlacements_eq_ok {placements : List Placement}
    (passed : takePlacements source target slots span = .ok placements) :
    match target.binding.perspective with
    | .lifo => placements = slots.map fun _ => .head
    | .fifo => placements = slots.map fun _ => .tail
    | .hashed => ∀ pair ∈ placements.zip slots, ∃ key, pair.2.key = some key ∧
        pair.1 = target.container.content.placementOf key := by
  simp only [takePlacements] at passed
  cases perspective : target.binding.perspective with
  | lifo =>
      rw [perspective] at passed
      exact (Check.pure_eq_ok.mp passed).symm
  | fifo =>
      rw [perspective] at passed
      exact (Check.pure_eq_ok.mp passed).symm
  | hashed =>
      simp only [perspective, Check.throw_eq_error, Check.error_bind, Check.reject_eq_ok] at passed
      intro pair member
      have placed := Check.mapM_zip_eq_ok passed.2 pair member
      unfold placeTaken at placed
      split at placed
      · rename_i key named
        exact ⟨key, named, (Except.ok.inj placed).symm⟩
      · contradiction

end Access

namespace State

variable {state : State} {span : Span}

theorem content_insertAll {access : Access} {planned : List (Placement × Slot)}
    {container : Container} (found : state.container? access.container.id = some container) :
    (state.insertAll access planned).content access.container.id =
      (state.content access.container.id).landAll planned := by
  induction planned generalizing state container with
  | nil => rfl
  | cons first rest ih =>
      obtain ⟨placement, slot⟩ := first
      have there := @container?_insert state access
        ((state.content access.container.id).landing placement slot) slot access.container.id
      rw [if_pos rfl, found, Option.map_some] at there
      rw [insertAll_cons, ih there, content_insert found]
      rfl

/-- What a take leaves behind.  Under the lifo perspective all slots are appended at the head
exactly when their keys are unclaimed; under the fifo perspective all are put before the tail.
Every slot under somebody else's borrow stays as it was, except that under the lifo perspective its
key must not be brought along. -/
structure Receives (state after : State) (target : Access) (slots : List Slot) : Prop where
  lifo : target.binding.perspective = .lifo →
    (after.content target.container.id = state.content target.container.id ++ slots ↔
      (state.content target.container.id).Unclaimed slots)
  fifo : target.binding.perspective = .fifo →
    after.content target.container.id = slots.reverse ++ state.content target.container.id
  spared : ∀ record, state.ledger.Rival target.container.id target.record? record →
    ∀ position ∈ record.slots,
    (target.binding.perspective = .lifo → ∀ slot ∈ slots, ∀ key, slot.key = some key →
      (state.content target.container.id).positionOf? key ≠ some position) →
    (after.content target.container.id)[position]? =
      (state.content target.container.id)[position]?

variable {source target : Access} {key : Option Value} {conversion : Option Conversion}
  {transfer : Transfer}

/-- The target of a take holds what lands in it. -/
theorem content_commitTake (toTarget : state.Reaches target)
    (passed : state.checkTransfer target source .take key conversion span = .ok transfer) :
    (state.commitTake transfer span).content target.container.id =
      (state.content target.container.id).landAll (transfer.placements.zip transfer.slots) := by
  obtain ⟨rfl, rfl, -, sourcePassed, -, -⟩ := checkTransfer_eq_ok passed
  obtain ⟨-, -, another, -, -, -⟩ := Access.checkSource_eq_ok sourcePassed
  have different : transfer.target.container.id ≠ transfer.source.container.id := by
    intro same
    exact Effect.noConfusion (another same.symm)
  have found : (state.markMoved transfer.source.container.id span).container?
      transfer.target.container.id = some transfer.target.container := by
    rw [markMoved, container?_modifyContainer, if_neg different]
    exact toTarget.container
  rw [commitTake, content_insertAll found, content_eq found, toTarget.content]

theorem zip_map_const (slots : List Slot) (placement : Placement) :
    (slots.map fun _ => placement).zip slots = slots.map fun slot => (placement, slot) := by
  induction slots with
  | nil => rfl
  | cons slot rest ih => rw [List.map_cons, List.zip_cons_cons, ih, List.map_cons]

/-- What a take plans to insert passes by every slot under somebody else's borrow, unless it is
planned for the head and brings along the key there. -/
theorem takePlacements_passBy (sound : state.Sound) (toTarget : state.Reaches target)
    {slots : List Slot} {placements : List Placement}
    (inserts : target.checkInsertions state.ledger placements span = .ok ())
    (places : Access.takePlacements source target slots span = .ok placements)
    {record : BorrowRecord} (rival : state.ledger.Rival target.container.id target.record? record)
    {position : Nat} (member : position ∈ record.slots)
    (free : target.binding.perspective = .lifo → ∀ slot ∈ slots, ∀ key, slot.key = some key →
      (state.content target.container.id).positionOf? key ≠ some position) :
    ∀ pair ∈ placements.zip slots, (state.content target.container.id).PassesBy position pair := by
  have planned := Access.takePlacements_eq_ok places
  have spares := Access.checkInsertions_eq_ok sound toTarget.container inserts record rival
  rintro ⟨placement, slot⟩ paired
  obtain ⟨placed, inSlots⟩ := List.of_mem_zip paired
  cases perspective : target.binding.perspective with
  | lifo =>
      rw [perspective] at planned
      subst planned
      obtain ⟨-, -, rfl⟩ := List.mem_map.mp placed
      exact ⟨by simp, by simp, fun _ => free perspective slot inSlots⟩
  | fifo =>
      -- A rival covers a position only if nothing is inserted.
      rw [perspective] at planned
      subst planned
      obtain ⟨-, -, rfl⟩ := List.mem_map.mp placed
      exact (spares .tail placed position member).elim
  | hashed =>
      rw [perspective] at planned
      obtain ⟨key, named, rfl⟩ := planned _ paired
      rw [toTarget.content]
      refine Content.passesBy_placementOf named ?_
      intro replaces
      have spared := spares _ placed
      rw [replaces] at spared
      exact spared member

theorem receives_commitTake (sound : state.Sound) (toTarget : state.Reaches target)
    (passed : state.checkTransfer target source .take key conversion span = .ok transfer) :
    state.Receives (state.commitTake transfer span) target transfer.slots := by
  have landed := content_commitTake toTarget passed
  obtain ⟨-, -, -, -, -, targetPassed⟩ := checkTransfer_eq_ok passed
  obtain ⟨inserts, places, -⟩ := Access.checkTarget_eq_ok targetPassed
  have planned := Access.takePlacements_eq_ok (places rfl)
  constructor
  case lifo =>
    intro perspective
    rw [perspective] at planned
    rw [landed, planned, zip_map_const]
    exact Content.landAll_head_eq_append
  case fifo =>
    intro perspective
    rw [perspective] at planned
    rw [landed, planned, zip_map_const]
    exact Content.landAll_tail ..
  case spared =>
    intro record rival position member free
    rw [landed]
    exact Content.getElem?_landAll ⟨Nat.le_refl _, fun _ _ => rfl⟩
      (sound.inside rival.member rival.onContainer rival.ledgered position member)
      (takePlacements_passBy sound toTarget inserts (places rfl) rival member free)

end State

namespace Verification

/-- An accepted take converts all slots of its source.  Under the lifo perspective it appends them
exactly when none brings along a key that the target, or a slot taken before it, carries; under the
fifo perspective it always puts them before the tail.  Slots under somebody else's borrow stay as
they were, except that under the lifo perspective a taken slot overwrites the one with its key. -/
theorem take_receives (nodes : List Node) {target source : String} {key : Option Value}
    {conversion : Option Conversion} {span : Span}
    (accepted : ((run {} nodes).state.perform
      (.push target (.transfer source .take) key conversion) span).verdict.ok = true) :
    ∃ into origin kind slots, (run {} nodes).state.access target span = .ok (some into) ∧
      (run {} nodes).state.access source span = .ok (some origin) ∧
      Conversion.Resolves origin.container.element into.container.element conversion kind ∧
      origin.container.content.mapM (Access.convertSlot kind origin.container.element
        into.container.element span) = .ok slots ∧
      (run {} nodes).state.Receives ((run {} nodes).state.perform
        (.push target (.transfer source .take) key conversion) span).state into slots := by
  have sound := run_sound nodes
  obtain ⟨into, origin, transfer, created, after, intoFound, originFound, passed, committed,
    same⟩ := State.transfer_accepted accepted
  obtain ⟨-, -, effect, -, ⟨converted, conversionPassed, slots⟩, -⟩ :=
    State.checkTransfer_eq_ok passed
  obtain ⟨kind, resolves, convertsAll⟩ := Access.convertSlots_take conversionPassed
  rw [if_pos rfl] at slots
  have taken : after = (run {} nodes).state.commitTake transfer span := by
    rw [State.commitTransfer, effect] at committed
    exact (congrArg (·.2) (Except.ok.inj committed)).symm
  have performed : ((run {} nodes).state.perform
      (.push target (.transfer source .take) key conversion) span).state =
      (run {} nodes).state.commitTake transfer span := same.trans taken
  refine ⟨into, origin, kind, transfer.slots, intoFound, originFound, resolves,
    slots ▸ convertsAll, ?_⟩
  rw [performed]
  exact State.receives_commitTake sound (State.access_eq_ok sound intoFound).1 passed

/-- A run that lends the only slot of a keyed container, uses the container under the lifo
perspective, and has another container with one slot ready to be taken. -/
def keyedTake (key : String) : List Node :=
  [⟨.declare "X" .integer (some .string) .owned, {}⟩,
    ⟨.bind "x" "X" (some .hashed), {}⟩,
    ⟨.push "x" (.value (.integer 1)) (some (.string "a")) none, {}⟩,
    ⟨.borrow "v" "x" (.range 0 0) .readOnly, {}⟩,
    ⟨.setPerspective "x" .lifo, {}⟩,
    ⟨.declare "S" .integer (some .string) .owned, {}⟩,
    ⟨.bind "s" "S" (some .hashed), {}⟩,
    ⟨.push "s" (.value (.integer 2)) (some (.string key)) none, {}⟩]

theorem take_receives_other_key :
    ((run {} (keyedTake "b")).state.perform
        (.push "x" (.transfer "s" .take) none none) {}).verdict.ok = true ∧
      ∃ into origin kind slots, (run {} (keyedTake "b")).state.access "x" {} = .ok (some into) ∧
        (run {} (keyedTake "b")).state.access "s" {} = .ok (some origin) ∧
        Conversion.Resolves origin.container.element into.container.element none kind ∧
        origin.container.content.mapM (Access.convertSlot kind origin.container.element
          into.container.element {}) = .ok slots ∧
        (run {} (keyedTake "b")).state.Receives ((run {} (keyedTake "b")).state.perform
          (.push "x" (.transfer "s" .take) none none) {}).state into slots :=
  ⟨by decide, take_receives (keyedTake "b") (by decide)⟩

/-- Under the lifo perspective a taken slot overwrites a slot with its key, even one that is
borrowed. -/
theorem take_overwrites_borrowed :
    ((run {} (keyedTake "a")).state.perform
        (.push "x" (.transfer "s" .take) none none) {}).verdict.ok = true ∧
      ∃ into, (run {} (keyedTake "a")).state.access "x" {} = .ok (some into) ∧
        into.binding.perspective = .lifo ∧
        (run {} (keyedTake "a")).state.content into.container.id =
          [⟨some (.integer 1), some (.string "a")⟩] ∧
        ((run {} (keyedTake "a")).state.perform
            (.push "x" (.transfer "s" .take) none none) {}).state.content into.container.id =
          [⟨some (.integer 2), some (.string "a")⟩] ∧
        ∃ record ∈ (run {} (keyedTake "a")).state.ledger.records,
          (run {} (keyedTake "a")).state.ledger.Rival into.container.id into.record? record ∧
          record.slots.contains 0 = true := by
  exact ⟨by decide, _, rfl, by decide, by decide, by decide, by decide⟩

end Verification

end Custody
