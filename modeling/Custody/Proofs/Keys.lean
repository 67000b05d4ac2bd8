import Custody.Proofs.Contents

/-!
# Keys of slots

A push gives a slot a key only under the hashed perspective, where the key has the key type of the
container and lands on the slot that carries it already.  A take brings the keys of its slots along.
Under the hashed perspective the key types must agree, and under the lifo perspective keys that are
there already are found, but neither is looked at otherwise.  So a run keeps its keys typed as long
as it takes no keyed slots from a container of another key type, and keeps them unique as long as no
take puts before the tail a key that its target carries.
-/

namespace Custody

/-! ## The keys of a content -/

namespace Content

/-- The keys that slots carry, in their order. -/
def keys (content : Content) : List Value :=
  content.filterMap (·.key)

variable {content : Content} {slot : Slot} {key : Value}

theorem mem_keys : key ∈ content.keys ↔ ∃ slot ∈ content, slot.key = some key :=
  List.mem_filterMap

theorem keys_append (left right : Content) : keys (left ++ right) = left.keys ++ right.keys :=
  List.filterMap_append

theorem keys_reverse (content : Content) : keys content.reverse = content.keys.reverse :=
  List.filterMap_reverse

theorem keys_sublist {fewer : Content} (part : fewer.Sublist content) :
    fewer.keys.Sublist content.keys :=
  part.filterMap _

/-- Slots that differ in their values alone have the same keys. -/
theorem keys_congr {left right : Content} (same : left.map (·.key) = right.map (·.key)) :
    left.keys = right.keys := by
  have filtered := congrArg (List.filterMap id) same
  rw [List.filterMap_map, List.filterMap_map] at filtered
  exact filtered

theorem positionOf?_eq_none : content.positionOf? key = none ↔ key ∉ content.keys := by
  rw [positionOf?, List.findIdx?_eq_none_iff, mem_keys, not_exists]
  refine forall_congr' fun slot => ?_
  cases named : slot.key <;>
    simp [hasKey, named, ← Bool.not_eq_true, Value.sameKey_eq_true]

theorem placementOf_ne_tail : content.placementOf key ≠ .tail := by
  rw [placementOf]
  split <;> simp

theorem keys_insert_head : (content.insert .head slot).keys = content.keys ++ slot.key.toList := by
  rw [insert, pushHead, keys_append]
  cases named : slot.key <;> simp [keys, named]

theorem keys_insert_tail : (content.insert .tail slot).keys = slot.key.toList ++ content.keys := by
  cases named : slot.key <;> simp [insert, pushTail, keys, named]

/-- A slot that is overwritten keeps its key. -/
theorem keys_insert_replace {position : Nat} :
    (content.insert (.replace position) slot).keys = content.keys := by
  rw [insert_replace]
  apply keys_congr
  apply List.ext_getElem?
  intro index
  rw [List.getElem?_map, List.getElem?_map, List.getElem?_modify]
  split <;> cases content[index]? <;> rfl

/-! ### Keys of slots that land -/

theorem mem_keys_insert (placement : Placement) (member : key ∈ content.keys) :
    key ∈ (content.insert placement slot).keys := by
  cases placement with
  | head =>
      rw [keys_insert_head]
      exact List.mem_append_left _ member
  | tail =>
      rw [keys_insert_tail]
      exact List.mem_append_right _ member
  | replace position =>
      rw [keys_insert_replace]
      exact member

theorem mem_keys_landAll_of_mem {planned : List (Placement × Slot)} (member : key ∈ content.keys) :
    key ∈ (content.landAll planned).keys := by
  induction planned generalizing content with
  | nil => exact member
  | cons first rest ih => exact ih (mem_keys_insert _ member)

/-- A slot that is planned for an end brings its key along, if the key is not there already. -/
theorem mem_keys_landing {planned : Placement} (ends : planned = .head ∨ planned = .tail)
    (named : slot.key = some key) :
    key ∈ (content.insert (content.landing planned slot) slot).keys := by
  rcases ends with rfl | rfl
  · rcases content.landing_head slot with ⟨lands, -⟩ | ⟨own, position, ownNamed, found, lands⟩
    · rw [lands, keys_insert_head, named]
      simp
    · obtain rfl := Option.some.inj (named.symm.trans ownNamed)
      rw [lands, keys_insert_replace]
      by_contra absent
      rw [positionOf?_eq_none.mpr absent] at found
      contradiction
  · rw [landing, keys_insert_tail, named] <;> simp

theorem mem_keys_landAll {planned : List (Placement × Slot)}
    (ends : ∀ pair ∈ planned, pair.1 = .head ∨ pair.1 = .tail) {pair : Placement × Slot}
    (member : pair ∈ planned) (named : pair.2.key = some key) :
    key ∈ (content.landAll planned).keys := by
  induction planned generalizing content with
  | nil => contradiction
  | cons first rest ih =>
      rcases List.mem_cons.mp member with rfl | later
      · rw [landAll]
        exact mem_keys_landAll_of_mem
          (mem_keys_landing (ends pair (List.mem_cons_self ..)) named)
      · exact ih (fun pair member => ends pair (List.mem_cons_of_mem _ member)) later

/-- A slot that lands away from the tail, or without a key, leaves the keys distinct. -/
theorem nodup_keys_landing (nodup : content.keys.Nodup) {planned : Placement}
    (unkeyed : planned = .tail → slot.key = none) :
    (content.insert (content.landing planned slot) slot).keys.Nodup := by
  cases planned with
  | head =>
      rcases content.landing_head slot with ⟨lands, free⟩ | ⟨-, position, -, -, lands⟩
      · rw [lands, keys_insert_head]
        cases named : slot.key with
        | none => simpa using nodup
        | some key =>
            have absent := positionOf?_eq_none.mp (free key named)
            exact List.nodup_append.mpr ⟨nodup, List.nodup_singleton key, by grind⟩
      · rw [lands, keys_insert_replace]
        exact nodup
  | tail =>
      rw [landing, keys_insert_tail, unkeyed rfl]
      · exact nodup
      · simp
  | replace position =>
      rw [landing, keys_insert_replace]
      · exact nodup
      · simp

theorem nodup_keys_landAll (nodup : content.keys.Nodup) {planned : List (Placement × Slot)}
    (unkeyed : ∀ pair ∈ planned, pair.1 = .tail → pair.2.key = none) :
    (content.landAll planned).keys.Nodup := by
  induction planned generalizing content with
  | nil => exact nodup
  | cons first rest ih =>
      apply ih
      · exact nodup_keys_landing nodup (unkeyed first (List.mem_cons_self ..))
      · intro pair member
        exact unkeyed pair (List.mem_cons_of_mem _ member)

/-! ### Distinct keys -/

/-- The key of the slot at a position. -/
def keyAt? (content : Content) (position : Nat) : Option Value :=
  content[position]?.bind (·.key)

/-- Slots at different positions carry different keys. -/
def KeysUnique (content : Content) : Prop :=
  ∀ first second key other, content.keyAt? first = some key →
    content.keyAt? second = some other → key.sameKey other = true → first = second

theorem keysUnique_iff : content.KeysUnique ↔ content.keys.Nodup := by
  rw [keys, List.Nodup, List.pairwise_filterMap, List.pairwise_iff_getElem]
  constructor
  · intro unique first second inside secondInside earlier key named other otherNamed same
    have firstKey : content.keyAt? first = some key := by
      rw [keyAt?, List.getElem?_eq_getElem inside, Option.bind_some, named]
    have secondKey : content.keyAt? second = some other := by
      rw [keyAt?, List.getElem?_eq_getElem secondInside, Option.bind_some, otherNamed]
    have equal := unique first second key other firstKey secondKey
      ((Value.sameKey_eq_true ..).mpr same)
    omega
  · intro distinct first second key other firstKey secondKey same
    have same := (Value.sameKey_eq_true ..).mp same
    obtain ⟨slot, found, named⟩ := Option.bind_eq_some_iff.mp firstKey
    obtain ⟨otherSlot, otherFound, otherNamed⟩ := Option.bind_eq_some_iff.mp secondKey
    obtain ⟨inside, rfl⟩ := List.getElem?_eq_some_iff.mp found
    obtain ⟨otherInside, rfl⟩ := List.getElem?_eq_some_iff.mp otherFound
    rcases Nat.lt_trichotomy first second with earlier | equal | later
    · exact (distinct first second inside otherInside earlier key named other otherNamed same).elim
    · exact equal
    · exact (distinct second first otherInside inside later other otherNamed key named
        same.symm).elim

instance (content : Content) : Decidable content.KeysUnique :=
  decidable_of_iff _ keysUnique_iff.symm

end Content

/-- A slot whose key, if it carries one, has the key type of a container. -/
def Slot.KeyFits (declared : Option Element) (slot : Slot) : Prop :=
  ∀ key, slot.key = some key → declared = some key.element

instance (declared : Option Element) (slot : Slot) : Decidable (slot.KeyFits declared) :=
  match named : slot.key with
  | none => isTrue fun _ same => nomatch named.symm.trans same
  | some key =>
    decidable_of_iff (declared = some key.element)
      ⟨fun fits _ same => Option.some.inj (named.symm.trans same) ▸ fits,
        fun fits => fits key named⟩

/-! ## Checks -/

namespace Access

variable {source target access : Access} {span : Span} {slots : List Slot}
  {placements : List Placement}

/-- A key that is pushed has the key type of its container. -/
theorem keyFits_of_placement {key : Option Value} {planned : Placement} {slot : Slot}
    (placed : access.placement key span = .ok planned) (named : slot.key = key) :
    slot.KeyFits access.container.key := by
  intro own ownNamed
  rw [← named, ownNamed] at placed
  simp only [placement] at placed
  split at placed
  · contradiction
  · rename_i pushed _ same
    obtain rfl := Option.some.inj same
    split at placed
    · contradiction
    · rename_i declared keyed
      split at placed
      · contradiction
      · rename_i agree
        rw [keyed, not_not.mp agree]
  · split at placed <;> contradiction
  · contradiction
  · contradiction

theorem key_eq_none_of_tail {key : Option Value} (placed : access.placement key span = .ok .tail) :
    key = none := by
  rcases placement_eq_ok placed with ⟨unkeyed, -⟩ | ⟨value, -, lands⟩
  · exact unkeyed
  · exact (Content.placementOf_ne_tail lands.symm).elim

/-- A conversion changes values and no keys. -/
theorem key_convertSlot {kind : Option Conversion} {found wanted : Element} {slot after : Slot}
    (passed : convertSlot kind found wanted span slot = .ok after) : after.key = slot.key := by
  simp only [convertSlot] at passed
  split at passed
  · simp only [Check.bind_eq_ok, Check.pure_eq_ok] at passed
    obtain ⟨converted, -, rfl⟩ := passed
    rfl
  · rw [← Except.ok.inj passed]

/-- Under the hashed perspective a take requires that the key types agree. -/
theorem key_eq_of_hashed (passed : takePlacements source target slots span = .ok placements)
    (hashed : target.binding.perspective = .hashed) :
    source.container.key = target.container.key := by
  simp only [takePlacements, hashed, Check.throw_eq_error, Check.error_bind, Check.reject_eq_ok]
    at passed
  have agree : source.container.key = target.container.key ∧ target.container.key ≠ none := by
    simpa using passed.1
  exact agree.1

/-- Under the other perspectives the keys of all taken slots are found in the target. -/
theorem mem_keys_of_unhashed (passed : takePlacements source target slots span = .ok placements)
    (unhashed : target.binding.perspective ≠ .hashed) {key : Value}
    (member : key ∈ Content.keys slots) (content : Content) :
    key ∈ (content.landAll (placements.zip slots)).keys := by
  obtain ⟨slot, inSlots, named⟩ := Content.mem_keys.mp member
  have planned := takePlacements_eq_ok passed
  cases perspective : target.binding.perspective with
  | lifo | fifo =>
      rw [perspective] at planned
      rw [planned, State.zip_map_const]
      exact Content.mem_keys_landAll (by simp) (List.mem_map_of_mem inSlots) named
  | hashed => contradiction

/-- Only under the fifo perspective slots are taken to the tail. -/
theorem fifo_of_tail (passed : takePlacements source target slots span = .ok placements)
    {pair : Placement × Slot} (member : pair ∈ placements.zip slots) (tail : pair.1 = .tail) :
    target.binding.perspective = .fifo := by
  have planned := takePlacements_eq_ok passed
  cases perspective : target.binding.perspective with
  | lifo =>
      rw [perspective] at planned
      rw [planned, State.zip_map_const] at member
      obtain ⟨slot, -, rfl⟩ := List.mem_map.mp member
      contradiction
  | fifo => rfl
  | hashed =>
      rw [perspective] at planned
      obtain ⟨key, -, lands⟩ := planned pair member
      exact (Content.placementOf_ne_tail (lands.symm.trans tail)).elim

end Access

/-! ## Takes and other pushes -/

theorem Placement.eq_tail_of_afterRemoval {placement : Placement} {removed : Nat}
    (tail : placement.afterRemoval removed = .tail) : placement = .tail := by
  cases placement with
  | head => contradiction
  | tail => rfl
  | replace position =>
      simp only [afterRemoval] at tail
      split at tail
      · contradiction
      · split at tail <;> contradiction

namespace State

variable {state : State} {node : Node} {into origin target source : Access} {base : Content}
  {planned : List (Placement × Slot)} {key : Option Value} {conversion : Option Conversion}
  {span : Span} {transfer : Transfer}

theorem takePlacements_of_checkTransfer
    (passed : state.checkTransfer target source .take key conversion span = .ok transfer) :
    Access.takePlacements source target transfer.slots span = .ok transfer.placements := by
  obtain ⟨-, -, -, -, -, targetPassed⟩ := checkTransfer_eq_ok passed
  exact (Access.checkTarget_eq_ok targetPassed).2.1 rfl

/-- A take brings the keys of its source along. -/
theorem keys_slots
    (passed : state.checkTransfer target source .take key conversion span = .ok transfer) :
    Content.keys transfer.slots = source.container.content.keys := by
  obtain ⟨-, -, -, -, ⟨converted, converts, slots⟩, -⟩ := checkTransfer_eq_ok passed
  obtain ⟨kind, -, all⟩ := Access.convertSlots_take converts
  rw [slots, if_pos rfl]
  exact Content.keys_congr (Check.map_of_mapM_eq_ok all Access.key_convertSlot)

/-- An accepted take, with what its target and its source reach. -/
structure Takes (state : State) (node : Node) (into origin : Access) : Prop where
  operation : ∃ target source key conversion,
    node.operation = .push target (.transfer source .take) key conversion ∧
    state.access target node.span = .ok (some into) ∧
    state.access source node.span = .ok (some origin)
  accepted : (state.perform node.operation node.span).verdict.ok = true

theorem Takes.reaches (takes : state.Takes node into origin) (sound : state.Sound) :
    state.Reaches into ∧ state.Reaches origin := by
  obtain ⟨⟨target, source, key, conversion, -, found, originFound⟩, -⟩ := takes
  exact ⟨(access_eq_ok sound found).1, (access_eq_ok sound originFound).1⟩

theorem Takes.deposits (takes : state.Takes node into origin) (sound : state.Sound) :
    ∃ key conversion transfer,
      state.checkTransfer into origin .take key conversion node.span = .ok transfer ∧
      state.Deposits (state.perform node.operation node.span).state into.container.id
        (state.content into.container.id) (transfer.placements.zip transfer.slots) := by
  obtain ⟨⟨name, sourceName, key, conversion, operation, found, originFound⟩, accepted⟩ := takes
  rw [operation] at accepted ⊢
  obtain ⟨target, base, planned, plans, deposits⟩ := push_deposits sound accepted
  cases plans with
  | transfer targetFound sourceFound passed =>
      cases found.symm.trans targetFound
      cases originFound.symm.trans sourceFound
      exact ⟨key, conversion, _, passed, deposits⟩

/-- Slots that are not taken carry the key of the push, and none at the tail. -/
theorem keyed_of_untaken {effect : Effect} (untaken : effect ≠ .take)
    (passed : state.checkTransfer target source effect key conversion span = .ok transfer)
    {pair : Placement × Slot} (tail : pair.1 = .tail → .tail ∈ transfer.placements)
    (member : pair.2 ∈ transfer.slots) :
    pair.2.KeyFits target.container.key ∧ (pair.1 = .tail → pair.2.key = none) := by
  have named := key_of_mem_slots passed untaken member
  obtain ⟨-, -, -, -, -, targetPassed⟩ := checkTransfer_eq_ok passed
  obtain ⟨-, -, places⟩ := Access.checkTarget_eq_ok targetPassed
  obtain ⟨placement, placed, single⟩ := places untaken
  refine ⟨Access.keyFits_of_placement placed named, ?_⟩
  intro isTail
  have same := tail isTail
  rw [single, List.mem_singleton] at same
  rw [named]
  exact Access.key_eq_none_of_tail (same ▸ placed)

/-- A push that is no take plans for slots whose key is of the key type of its target, and for none
with a key at the tail. -/
theorem Plans.keyed_or_takes (plans : state.Plans node.span node.operation target base planned)
    (accepted : (state.perform node.operation node.span).verdict.ok = true) :
    (∀ pair ∈ planned, pair.2.KeyFits target.container.key ∧
        (pair.1 = .tail → pair.2.key = none)) ∨
      ∃ origin key conversion transfer, state.Takes node target origin ∧
        state.checkTransfer target origin .take key conversion node.span = .ok transfer ∧
        planned = transfer.placements.zip transfer.slots := by
  obtain ⟨operation, span⟩ := node
  cases plans with
  | literal found converts placed =>
      refine .inl fun pair member => ?_
      rw [List.mem_singleton.mp member]
      refine ⟨Access.keyFits_of_placement placed rfl, ?_⟩
      rintro rfl
      exact Access.key_eq_none_of_tail placed
  | @transfer _ _ effect _ _ _ _ _ found originFound passed =>
      by_cases taken : effect = .take
      · subst taken
        exact .inr ⟨_, _, _, _, ⟨⟨_, _, _, _, rfl, found, originFound⟩, accepted⟩, passed, rfl⟩
      · refine .inl fun pair member => ?_
        obtain ⟨inPlacements, inSlots⟩ := List.of_mem_zip member
        exact keyed_of_untaken taken passed (fun tail => tail ▸ inPlacements) inSlots
  | within found originFound passed =>
      refine .inl fun pair member => ?_
      obtain ⟨inPlacements, inSlots⟩ := List.of_mem_zip member
      refine keyed_of_untaken (by decide) passed ?_ inSlots
      intro tail
      obtain ⟨placement, inPlacements, adjusted⟩ := List.mem_map.mp inPlacements
      exact Placement.eq_tail_of_afterRemoval (adjusted.trans tail) ▸ inPlacements

/-! ## Keys of the declared type -/

/-- Keys have the key type of the container whose slots carry them. -/
def KeysTyped (state : State) : Prop :=
  ∀ container ∈ state.containers, ∀ slot ∈ container.content, slot.KeyFits container.key

instance (state : State) : Decidable state.KeysTyped :=
  inferInstanceAs (Decidable (∀ container ∈ state.containers, ∀ slot ∈ container.content,
    slot.KeyFits container.key))

/-- A take that brings keys into a container of another key type, or of none. -/
def TakesForeignKeys (state : State) (node : Node) : Prop :=
  ∃ into origin, state.Takes node into origin ∧ origin.container.key ≠ into.container.key ∧
    ∃ slot ∈ origin.container.content, slot.key ≠ none

theorem keysTyped_iff : state.KeysTyped ↔
    state.Upholds fun declared content => ∀ slot ∈ content, slot.KeyFits declared.key := by
  rw [upholds_iff]
  rfl

theorem KeysTyped.reached (typed : state.KeysTyped) {access : Access}
    (reaches : state.Reaches access) {own : Value} (member : own ∈ access.container.content.keys) :
    access.container.key = some own.element := by
  obtain ⟨slot, inContent, named⟩ := Content.mem_keys.mp member
  exact reaches.upholds (keysTyped_iff.mp typed) slot inContent own named

theorem KeysTyped.pushed (typed : state.KeysTyped) (sound : state.Sound)
    (unforeign : ¬state.TakesForeignKeys node)
    (accepted : (state.perform node.operation node.span).verdict.ok = true)
    (plans : state.Plans node.span node.operation target base planned) :
    ∀ pair ∈ planned, pair.2.KeyFits target.container.key := by
  intro pair member
  rcases plans.keyed_or_takes accepted with keyed | ⟨origin, key, conversion, transfer, takes,
    passed, rfl⟩
  · exact (keyed pair member).1
  · intro own named
    obtain ⟨-, fromOrigin⟩ := takes.reaches sound
    have inSlots : own ∈ Content.keys transfer.slots :=
      Content.mem_keys.mpr ⟨pair.2, (List.of_mem_zip member).2, named⟩
    rw [keys_slots passed] at inSlots
    have originTyped := typed.reached fromOrigin inSlots
    by_contra other
    obtain ⟨slot, inContent, slotNamed⟩ := Content.mem_keys.mp inSlots
    refine unforeign ⟨target, origin, takes, ?_, slot, inContent, by simp [slotNamed]⟩
    intro same
    exact other (same ▸ originTyped)

/-- Only takes of foreign keys bring keys where they do not belong. -/
theorem KeysTyped.perform_iff (typed : state.KeysTyped) (sound : state.Sound) (node : Node) :
    (state.perform node.operation node.span).state.KeysTyped ↔ ¬state.TakesForeignKeys node := by
  constructor
  · rintro after ⟨into, origin, takes, foreign, slot, inContent, keyed⟩
    obtain ⟨own, named⟩ := Option.ne_none_iff_exists'.mp keyed
    obtain ⟨key, conversion, transfer, passed, deposits⟩ := takes.deposits sound
    obtain ⟨toInto, fromOrigin⟩ := takes.reaches sound
    have places := takePlacements_of_checkTransfer passed
    have inOrigin := Content.mem_keys.mpr ⟨slot, inContent, named⟩
    have landed := Access.mem_keys_of_unhashed places
      (fun hashed => foreign (Access.key_eq_of_hashed places hashed))
      ((keys_slots passed).symm ▸ inOrigin) (state.content into.container.id)
    rw [← deposits.landed] at landed
    obtain ⟨late, inLater, lateNamed⟩ := Content.mem_keys.mp landed
    have declared := (deposits.declaration _).trans toInto.declaration
    have intoTyped := keysTyped_iff.mp after _ _ declared late inLater own lateNamed
    exact foreign ((typed.reached fromOrigin inOrigin).trans
      intoTyped.symm)
  · intro unforeign
    rw [keysTyped_iff]
    apply (keysTyped_iff.mp typed).perform_forall (fun fits _ => fits) sound
    intro target base planned accepted plans
    exact typed.pushed sound unforeign accepted plans

/-! ## Distinct keys -/

/-- No container carries a key twice. -/
def KeysUnique (state : State) : Prop :=
  ∀ container ∈ state.containers, container.content.KeysUnique

instance (state : State) : Decidable state.KeysUnique :=
  inferInstanceAs (Decidable (∀ container ∈ state.containers, container.content.KeysUnique))

/-- A take that puts before the tail a key that its target carries. -/
def TakesClaimedKeys (state : State) (node : Node) : Prop :=
  ∃ into origin, state.Takes node into origin ∧ into.binding.perspective = .fifo ∧
    ∃ key ∈ origin.container.content.keys, key ∈ into.container.content.keys

theorem keysUnique_iff : state.KeysUnique ↔
    state.Upholds fun _ content => content.keys.Nodup := by
  rw [upholds_iff]
  exact forall₂_congr fun container _ => Content.keysUnique_iff

/-- A take under the fifo perspective puts its keys before those of its target. -/
theorem keys_landAll_fifo (fifo : target.binding.perspective = .fifo)
    (passed : state.checkTransfer target source .take key conversion span = .ok transfer)
    (content : Content) :
    (content.landAll (transfer.placements.zip transfer.slots)).keys =
      source.container.content.keys.reverse ++ content.keys := by
  have planned := Access.takePlacements_eq_ok (takePlacements_of_checkTransfer passed)
  rw [fifo] at planned
  rw [planned, zip_map_const, Content.landAll_tail, Content.keys_append, Content.keys_reverse,
    keys_slots passed]

theorem KeysUnique.reached (unique : state.KeysUnique) {access : Access}
    (reaches : state.Reaches access) : access.container.content.keys.Nodup :=
  reaches.upholds (keysUnique_iff.mp unique)

theorem KeysUnique.lands (unique : state.KeysUnique) (sound : state.Sound)
    (unclaimed : ¬state.TakesClaimedKeys node)
    (accepted : (state.perform node.operation node.span).verdict.ok = true)
    (plans : state.Plans node.span node.operation target base planned) (nodup : base.keys.Nodup) :
    (base.landAll planned).keys.Nodup := by
  rcases plans.keyed_or_takes accepted with keyed | ⟨origin, key, conversion, transfer, takes,
    passed, rfl⟩
  · exact Content.nodup_keys_landAll nodup fun pair member => (keyed pair member).2
  · by_cases fifo : target.binding.perspective = .fifo
    · obtain ⟨toTarget, fromOrigin⟩ := takes.reaches sound
      rw [keys_landAll_fifo fifo passed, List.nodup_append']
      refine ⟨List.nodup_reverse.mpr (unique.reached fromOrigin), nodup, ?_⟩
      intro own taken inBase
      have claimed := (Content.keys_sublist plans.base_sublist).subset inBase
      rw [toTarget.content] at claimed
      exact unclaimed ⟨target, origin, takes, fifo, own, List.mem_reverse.mp taken, claimed⟩
    · apply Content.nodup_keys_landAll nodup
      intro pair member tail
      have places := takePlacements_of_checkTransfer passed
      exact (fifo (Access.fifo_of_tail places member tail)).elim

/-- Only takes of claimed keys leave a key in two slots. -/
theorem KeysUnique.perform_iff (unique : state.KeysUnique) (sound : state.Sound) (node : Node) :
    (state.perform node.operation node.span).state.KeysUnique ↔ ¬state.TakesClaimedKeys node := by
  constructor
  · rintro after ⟨into, origin, takes, fifo, own, inOrigin, inInto⟩
    obtain ⟨key, conversion, transfer, passed, deposits⟩ := takes.deposits sound
    obtain ⟨toInto, -⟩ := takes.reaches sound
    have declared := (deposits.declaration _).trans toInto.declaration
    have nodup := keysUnique_iff.mp after _ _ declared
    rw [deposits.landed, keys_landAll_fifo fifo passed, List.nodup_append', toInto.content] at nodup
    exact nodup.2.2 (List.mem_reverse.mpr inOrigin) inInto
  · intro unclaimed
    rw [keysUnique_iff]
    apply Upholds.perform (keysUnique_iff.mp unique) _ sound
    · intro target base planned accepted plans nodup
      exact unique.lands sound unclaimed accepted plans nodup
    · constructor
      · intro declared
        exact List.nodup_nil
      · intro declared content fewer part nodup
        exact nodup.sublist (Content.keys_sublist part)

end State

/-! ## Runs -/

namespace Verification

/-- Keys have the declared key type in all states of a run exactly if no take brought keys into a
container of another key type. -/
theorem keys_typed_iff (nodes : List Node) :
    (∀ before, before <+: nodes → (run {} before).state.KeysTyped) ↔
      ∀ before node, before ++ [node] <+: nodes →
        ¬(run {} before).state.TakesForeignKeys node := by
  apply run_all_iff
  · intro container undeclared
    contradiction
  · intro state node sound typed
    exact typed.perform_iff sound node

/-- A run that takes a keyed slot to the head of a container that was declared with another key
type, or with none. -/
def foreignTake (key : Option Element) : List Node :=
  [⟨.declare "S" .integer (some .string) .owned, {}⟩,
    ⟨.bind "s" "S" (some .hashed), {}⟩,
    ⟨.push "s" (.value (.integer 1)) (some (.string "a")) none, {}⟩,
    ⟨.declare "T" .integer key .owned, {}⟩,
    ⟨.bind "t" "T" none, {}⟩,
    ⟨.push "t" (.transfer "s" .take) none none, {}⟩]

/-- The key that is taken along is not looked at. -/
theorem take_mistypes_keys :
    ¬(run {} (foreignTake none)).state.KeysTyped ∧
      ¬(run {} (foreignTake (some .bool))).state.KeysTyped := by
  decide

/-- Keys are distinct in all states of a run exactly if no take put before the tail of a container a
key that the container carried. -/
theorem keys_unique_iff (nodes : List Node) :
    (∀ before, before <+: nodes → (run {} before).state.KeysUnique) ↔
      ∀ before node, before ++ [node] <+: nodes →
        ¬(run {} before).state.TakesClaimedKeys node := by
  apply run_all_iff
  · intro container undeclared
    contradiction
  · intro state node sound unique
    exact unique.perform_iff sound node

/-- A run that takes a slot to the tail of a container that carries its key. -/
def claimedTake : List Node :=
  [⟨.declare "X" .integer (some .string) .owned, {}⟩,
    ⟨.bind "x" "X" (some .hashed), {}⟩,
    ⟨.push "x" (.value (.integer 1)) (some (.string "a")) none, {}⟩,
    ⟨.setPerspective "x" .fifo, {}⟩,
    ⟨.declare "S" .integer (some .string) .owned, {}⟩,
    ⟨.bind "s" "S" (some .hashed), {}⟩,
    ⟨.push "s" (.value (.integer 2)) (some (.string "a")) none, {}⟩,
    ⟨.push "x" (.transfer "s" .take) none none, {}⟩]

/-- The key stands in two slots then. -/
theorem take_repeats_key : ¬(run {} claimedTake).state.KeysUnique := by
  decide

end Verification

end Custody
