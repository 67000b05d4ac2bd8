import Custody.Proofs.Frozen
import Custody.Proofs.Lifetimes
import Custody.Proofs.Refusals
import Custody.Proofs.Takes

/-!
# What operations leave in containers

Operations other than pushes add no slot to any container.  A push that is accepted may take slots
out of their containers, and then the slots that it plans for land in its target, one after another.
So a rule on contents that holds of every part of a content as well is kept by all operations, as
long as it is kept where the slots of a push land.
-/

namespace Custody

/-! ## Fewer slots -/

namespace Content

/-- What holds of all slots holds after an insertion, if it holds of the new slot and of a slot
whose value is overwritten. -/
theorem forall_mem_insert {fits : Slot → Prop}
    (mixes : ∀ {old slot : Slot}, fits old → fits slot → fits { old with value := slot.value })
    {content : Content} (fit : ∀ slot ∈ content, fits slot) (placement : Placement) {slot : Slot}
    (fitting : fits slot) : ∀ other ∈ content.insert placement slot, fits other := by
  intro other member
  cases placement with
  | head =>
      rcases List.mem_append.mp member with earlier | last
      · exact fit other earlier
      · rw [List.mem_singleton.mp last]
        exact fitting
  | tail =>
      rcases List.mem_cons.mp member with rfl | earlier
      · exact fitting
      · exact fit other earlier
  | replace position =>
      rw [insert_replace] at member
      obtain ⟨index, found⟩ := List.mem_iff_getElem?.mp member
      rw [List.getElem?_modify] at found
      obtain ⟨old, stood, changed⟩ := Option.map_eq_some_iff.mp found
      have fits := fit old (List.mem_of_getElem? stood)
      split at changed
      · rw [← changed]
        exact mixes fits fitting
      · rw [← changed]
        exact fits

/-- What holds of all slots holds after others that it holds of have landed. -/
theorem forall_mem_landAll {fits : Slot → Prop}
    (mixes : ∀ {old slot : Slot}, fits old → fits slot → fits { old with value := slot.value })
    {content : Content} (fit : ∀ slot ∈ content, fits slot) {planned : List (Placement × Slot)}
    (fitting : ∀ pair ∈ planned, fits pair.2) : ∀ slot ∈ content.landAll planned, fits slot := by
  induction planned generalizing content with
  | nil => exact fit
  | cons first rest ih =>
      apply ih
      · exact forall_mem_insert mixes fit _ (fitting first (List.mem_cons_self ..))
      · intro pair member
        exact fitting pair (List.mem_cons_of_mem _ member)

end Content

namespace State

variable {state after : State} {id : ContainerId}

theorem content_of_undeclared (undeclared : state.declaration? id = none) :
    state.content id = [] := by
  rw [declaration?, Option.map_eq_none_iff] at undeclared
  rw [content, undeclared]
  rfl

/-- A new container is empty. -/
theorem content_register {name : String} {element : Element} {key : Option Element} {mode : Mode}
    {span : Span} {container : Container}
    (declared : state.register name element key mode span = .ok (container, after)) :
    after.content id = state.content id := by
  obtain ⟨new, rfl⟩ := register_eq_ok declared
  cases found : state.container? id with
  | some old =>
      rw [content_eq found, content_eq ((register_grows declared).container_kept found)]
  | none =>
      have empty : state.content id = [] :=
        content_of_undeclared (by rw [declaration?, found]; rfl)
      rw [empty, content, container?]
      cases later : (state.containers ++ [container])[id.index]? with
      | none => rfl
      | some entry =>
          rcases getElem?_concat_eq_some later with earlier | ⟨-, rfl⟩
          · rw [container?, earlier] at found
            contradiction
          · rw [new]
            rfl

theorem content_remove_sublist (access : Access) (removed : SlotSet) (id : ContainerId) :
    ((state.remove access removed).2.content id).Sublist (state.content id) := by
  by_cases same : id = access.container.id
  · subst same
    cases found : state.container? access.container.id with
    | some container =>
        rw [content_remove found]
        exact Content.remove_sublist ..
    | none =>
        rw [content_of_undeclared]
        · exact List.nil_sublist _
        · rw [declaration?_remove, declaration?, found]
          rfl
  · rw [content_remove_of_ne same]

theorem content_markMoved_sublist (moved : ContainerId) (span : Span) (id : ContainerId) :
    ((state.markMoved moved span).content id).Sublist (state.content id) := by
  rw [content, content, markMoved, container?_modifyContainer]
  split
  · cases state.container? id with
    | none => exact .slnil
    | some container => exact List.nil_sublist _
  · exact .refl _

end State

/-- A change other than an insertion adds no slot. -/
theorem Change.content_sublist {act : Act} {state after : State} (change : Change act state after)
    (sound : state.Sound) (unpushed : act.pushes = false) (id : ContainerId) :
    (after.content id).Sublist (state.content id) := by
  cases change with
  | declare declared => rw [State.content_register declared]
  | bind | stand | capture | lend | hold | enter => exact .refl _
  | insert _ _ _ _ pushes =>
      rw [pushes] at unpushed
      contradiction
  | remove => exact State.content_remove_sublist ..
  | move => exact State.content_markMoved_sublist ..
  | release =>
      change ((state.modifyContainer _ _).content id).Sublist _
      rw [State.content_modifyContainer]
      intro container
      rfl
  | exit exits =>
      obtain ⟨-, -, scope, scopes, -, ends⟩ := sound.exitScope? exits
      rw [ends.content]
      exact .refl _

/-! ## Rules on contents -/

/-- A rule that holds of an empty content and of every part of a content that it holds of. -/
structure Hereditary (rule : Container → Content → Prop) : Prop where
  empty : ∀ declared, rule declared []
  part : ∀ {declared content fewer}, fewer.Sublist content → rule declared content →
    rule declared fewer

namespace State

variable {state after : State} {rule : Container → Content → Prop}

/-- A rule holds of the content of every container, given the declaration of the container. -/
def Upholds (state : State) (rule : Container → Content → Prop) : Prop :=
  ∀ id declared, state.declaration? id = some declared → rule declared (state.content id)

/-- A rule on what was declared and on the content is one on containers. -/
theorem upholds_iff : state.Upholds rule ↔
    ∀ container ∈ state.containers, rule container.declaration container.content := by
  constructor
  · intro upholds container member
    obtain ⟨index, found⟩ := List.mem_iff_getElem?.mp member
    have stored : state.container? ⟨index⟩ = some container := found
    rw [← content_eq stored]
    exact upholds _ _ (by rw [declaration?, stored]; rfl)
  · intro all id declared found
    obtain ⟨container, stored, rfl⟩ := Option.map_eq_some_iff.mp found
    rw [content_eq stored]
    exact all container (List.mem_of_getElem? stored)

theorem Reaches.upholds (upholds : state.Upholds rule) {access : Access}
    (reaches : state.Reaches access) :
    rule access.container.declaration access.container.content := by
  rw [← reaches.content]
  exact upholds _ _ reaches.declaration

/-- Where no slot is added a hereditary rule is kept. -/
theorem Upholds.fewer (upholds : state.Upholds rule) (hereditary : Hereditary rule)
    (persists : state.Persists after)
    (fewer : ∀ id, (after.content id).Sublist (state.content id)) : after.Upholds rule := by
  intro id declared found
  cases before : state.declaration? id with
  | some old =>
      rw [Option.some.inj (found.symm.trans (persists.declaration before))]
      exact hereditary.part (fewer id) (upholds _ _ before)
  | none =>
      have none := fewer id
      rw [content_of_undeclared before, List.sublist_nil] at none
      rw [none]
      exact hereditary.empty declared

/-! ## Accepted pushes -/

/-- Slots may have left their containers, and planned slots landed in a target that held `base`
before them. -/
structure Deposits (state after : State) (target : ContainerId) (base : Content)
    (planned : List (Placement × Slot)) : Prop where
  declaration : ∀ id, after.declaration? id = state.declaration? id
  elsewhere : ∀ id, id ≠ target → (after.content id).Sublist (state.content id)
  landed : after.content target = base.landAll planned

/-- What a push lets land in its target, and what the target holds then: a literal, what a transfer
brings from its source, or the head of a container that is moved within it. -/
inductive Plans (state : State) (span : Span) :
    Operation → Access → Content → List (Placement × Slot) → Prop
  | literal {name : String} {value : Value} {key : Option Value} {conversion : Option Conversion}
      {target : Access} {converted : Option Value} {placement : Placement}
      (found : state.access name span = .ok (some target))
      (converts : value.convertFor conversion target.container.element span = .ok converted)
      (placed : target.placement key span = .ok placement) :
      Plans state span (.push name (.value value) key conversion) target
        (state.content target.container.id) [(placement, ⟨converted, key⟩)]
  | transfer {name origin : String} {effect : Effect} {key : Option Value}
      {conversion : Option Conversion} {target source : Access} {transfer : Transfer}
      (found : state.access name span = .ok (some target))
      (originFound : state.access origin span = .ok (some source))
      (passed : state.checkTransfer target source effect key conversion span = .ok transfer) :
      Plans state span (.push name (.transfer origin effect) key conversion) target
        (state.content target.container.id) (transfer.placements.zip transfer.slots)
  | within {name origin : String} {key : Option Value} {conversion : Option Conversion}
      {target source : Access} {transfer : Transfer}
      (found : state.access name span = .ok (some target))
      (originFound : state.access origin span = .ok (some source))
      (passed : state.checkTransfer target source .move key conversion span = .ok transfer)
      (same : source.container.id = target.container.id) :
      Plans state span (.push name (.transfer origin .move) key conversion) target
        (state.content target.container.id).dropLast
        ((transfer.placements.map (·.afterRemoval transfer.head)).zip transfer.slots)

variable {span : Span} {target : Access} {base : Content} {planned : List (Placement × Slot)}

theorem Plans.found {operation : Operation}
    (plans : state.Plans span operation target base planned) :
    ∃ name, state.access name span = .ok (some target) := by
  cases plans with
  | literal found | transfer found | within found => exact ⟨_, found⟩

theorem Plans.base_sublist {operation : Operation}
    (plans : state.Plans span operation target base planned) :
    base.Sublist (state.content target.container.id) := by
  cases plans with
  | literal | transfer => exact .refl _
  | within => exact List.dropLast_sublist _

theorem declaration?_insertAll (access : Access) (planned : List (Placement × Slot))
    (id : ContainerId) :
    (state.insertAll access planned).declaration? id = state.declaration? id := by
  induction planned generalizing state with
  | nil => rfl
  | cons first rest ih => rw [insertAll_cons, ih, declaration?_insert]

theorem content_insertAll_of_ne (access : Access) (planned : List (Placement × Slot))
    {id : ContainerId} (different : id ≠ access.container.id) :
    (state.insertAll access planned).content id = state.content id := by
  induction planned generalizing state with
  | nil => rfl
  | cons first rest ih => rw [insertAll_cons, ih, content_insert_of_ne different]

/-- Planned slots land in the target once others have left. -/
theorem deposits_insertAll {middle : State} (reaches : state.Reaches target)
    (declaration : ∀ id, middle.declaration? id = state.declaration? id)
    (fewer : ∀ id, (middle.content id).Sublist (state.content id))
    (planned : List (Placement × Slot)) :
    state.Deposits (middle.insertAll target planned) target.container.id
      (middle.content target.container.id) planned where
  declaration := fun id => (declaration?_insertAll ..).trans (declaration id)
  elsewhere := by
    intro id different
    rw [content_insertAll_of_ne _ _ different]
    exact fewer id
  landed := by
    have declared := (declaration target.container.id).trans reaches.declaration
    obtain ⟨container, found, -⟩ := Option.map_eq_some_iff.mp declared
    exact content_insertAll found

variable {source : Access} {key : Option Value} {conversion : Option Conversion}
  {transfer : Transfer}

theorem deposits_commitMove (fromSource : state.Reaches source) (toTarget : state.Reaches target)
    (passed : state.checkTransfer target source .move key conversion span = .ok transfer) :
    ∃ base planned, state.Deposits (state.commitMove transfer) target.container.id base planned ∧
      (source.container.id = target.container.id ∧
          base = (state.content target.container.id).dropLast ∧
          planned =
            (transfer.placements.map (·.afterRemoval transfer.head)).zip transfer.slots ∨
        base = state.content target.container.id ∧
          planned = transfer.placements.zip transfer.slots) := by
  obtain ⟨rfl, rfl, -, sourcePassed, -, -⟩ := checkTransfer_eq_ok passed
  obtain ⟨-, head, -, -, -, -⟩ := Access.checkSource_eq_ok sourcePassed
  refine ⟨_, _, deposits_insertAll toTarget declaration?_remove
    (content_remove_sublist transfer.source (.singleton transfer.head)) _, ?_⟩
  by_cases same : transfer.source.container.id = transfer.target.container.id
  · refine .inl ⟨same, ?_, by rw [if_pos same]⟩
    rw [← same, head, content_removeHead fromSource, fromSource.content]
  · refine .inr ⟨content_remove_of_ne (Ne.symm same), by rw [if_neg same]⟩

theorem deposits_commitTake (toTarget : state.Reaches target)
    (passed : state.checkTransfer target source .take key conversion span = .ok transfer) :
    state.Deposits (state.commitTake transfer span) target.container.id
      (state.content target.container.id) (transfer.placements.zip transfer.slots) := by
  have landed := content_commitTake toTarget passed
  obtain ⟨rfl, -, -, -, -, -⟩ := checkTransfer_eq_ok passed
  have deposits : state.Deposits (state.commitTake transfer span) _ _ _ :=
    deposits_insertAll toTarget (declaration?_modifyContainer (by intro; rfl))
      (content_markMoved_sublist transfer.source.container.id span) _
  exact { deposits with landed }

theorem deposits_commitReference (sound : state.Sound) (fromSource : state.Reaches source)
    (toTarget : state.Reaches target) {effect : Effect}
    (passed : state.checkTransfer target source effect key conversion span = .ok transfer)
    {mode : BorrowMode} {record : RecordId}
    (committed : state.commitReference transfer mode span = .ok (record, after)) :
    state.Deposits after target.container.id (state.content target.container.id)
      (transfer.placements.zip transfer.slots) := by
  obtain ⟨rfl, rfl, -, -, -, -⟩ := checkTransfer_eq_ok passed
  simp only [commitReference, Check.bind_eq_ok, Check.mapError_eq_ok, Check.pure_eq_ok,
    Prod.mk.injEq] at committed
  obtain ⟨⟨_, borrowed⟩, added, -, rfl⟩ := committed
  -- A new borrow leaves the containers as they are.
  obtain ⟨-, same, -⟩ := addBorrow_eq_ok sound fromSource.container added
  have declaration : ∀ id, borrowed.declaration? id = state.declaration? id := by
    intro id
    rw [same]
    rfl
  have content : ∀ id, borrowed.content id = state.content id := by
    intro id
    rw [same]
    rfl
  rw [← content]
  exact deposits_insertAll toTarget declaration (fun id => content id ▸ .refl _) _

theorem pushValue_accepted {name : String} {value : Value}
    (accepted : (state.settle
      (state.pushValue name value key conversion span)).verdict.ok = true) :
    ∃ target converted placement, state.access name span = .ok (some target) ∧
      value.convertFor conversion target.container.element span = .ok converted ∧
      target.placement key span = .ok placement ∧
      (state.settle (state.pushValue name value key conversion span)).state =
        state.insert target placement ⟨converted, key⟩ := by
  obtain ⟨target, found, result⟩ := withAccess_accepted accepted
  change _ = Except.ok (state.settle (state.pushValue name value key conversion span)) at result
  simp only [Check.bind_eq_ok, Check.pure_eq_ok] at result
  obtain ⟨_, -, converted, converts, placement, placed, _, -, result⟩ := result
  rw [← result]
  exact ⟨target, converted, placement, found, converts, placed, rfl⟩

/-- An accepted push lets slots land as it plans. -/
theorem push_deposits (sound : state.Sound) {name : String} {operand : Operand}
    (accepted : (state.perform (.push name operand key conversion) span).verdict.ok = true) :
    ∃ target base planned,
      state.Plans span (.push name operand key conversion) target base planned ∧
      state.Deposits (state.perform (.push name operand key conversion) span).state
        target.container.id base planned := by
  cases operand with
  | value value =>
      obtain ⟨target, converted, placement, found, converts, placed, performed⟩ :=
        pushValue_accepted accepted
      obtain ⟨reaches, -⟩ := access_eq_ok sound found
      have landing : target.container.content.landing placement ⟨converted, key⟩ = placement :=
        Access.landing_placement placed rfl
      refine ⟨target, _, _, .literal found converts placed, ?_⟩
      change state.Deposits (state.settle (state.pushValue name value key conversion span)).state ..
      rw [performed]
      have deposits := deposits_insertAll reaches (fun _ => rfl) (fun _ => .refl _)
        [(placement, ⟨converted, key⟩)]
      rw [insertAll_cons, reaches.content, landing] at deposits
      rw [reaches.content]
      exact deposits
  | transfer origin effect =>
      obtain ⟨target, source, transfer, created, after, found, originFound, passed, committed,
        performed⟩ := transfer_accepted accepted
      obtain ⟨toTarget, -⟩ := access_eq_ok sound found
      obtain ⟨fromSource, -⟩ := access_eq_ok sound originFound
      obtain ⟨-, -, sameEffect, -, -, -⟩ := checkTransfer_eq_ok passed
      change ∃ target base planned, _ ∧ state.Deposits
        (state.settle (state.transfer name origin effect key conversion span)).state ..
      rw [performed]
      rw [commitTransfer, sameEffect] at committed
      cases effect with
      | move =>
          obtain rfl : state.commitMove transfer = after :=
            congrArg (·.2) (Except.ok.inj committed)
          obtain ⟨base, planned, deposits, ⟨same, rfl, rfl⟩ | ⟨rfl, rfl⟩⟩ :=
            deposits_commitMove fromSource toTarget passed
          · exact ⟨target, _, _, .within found originFound passed same, deposits⟩
          · exact ⟨target, _, _, .transfer found originFound passed, deposits⟩
      | take =>
          obtain rfl : state.commitTake transfer span = after :=
            congrArg (·.2) (Except.ok.inj committed)
          exact ⟨target, _, _, .transfer found originFound passed,
            deposits_commitTake toTarget passed⟩
      | borrow | borrowMut =>
          simp only [Effect.borrowMode?, Check.bind_eq_ok, Check.pure_eq_ok, Prod.mk.injEq]
            at committed
          obtain ⟨⟨record, _⟩, committed, -, rfl⟩ := committed
          exact ⟨target, _, _, .transfer found originFound passed,
            deposits_commitReference sound fromSource toTarget passed committed⟩

/-! ## Rules over operations -/

/-- A hereditary rule is kept by all operations if it is kept where the slots of an accepted push
land. -/
theorem Upholds.perform (upholds : state.Upholds rule) (hereditary : Hereditary rule)
    (sound : state.Sound) (operation : Operation) (span : Span)
    (lands : ∀ {target base planned}, (state.perform operation span).verdict.ok = true →
      state.Plans span operation target base planned →
      rule target.container.declaration base →
      rule target.container.declaration (base.landAll planned)) :
    (state.perform operation span).state.Upholds rule := by
  cases pushed : operation.pushes with
  | false =>
      have changes := state.perform_changes sound operation span
      have kept : ∀ {before next : State}, before.Sound → Change (state.act operation) before next →
          before.Upholds rule → next.Upholds rule := by
        intro before next sound change upholds
        exact upholds.fewer hereditary (change.persists sound)
          (change.content_sublist sound pushed)
      exact changes.keeps sound kept upholds
  | true =>
      cases operation with
      | push name operand key conversion =>
          cases accepted : (state.perform (.push name operand key conversion) span).verdict.ok with
          | false =>
              rw [perform_refused sound accepted nofun]
              exact upholds
          | true =>
              obtain ⟨target, base, planned, plans, deposits⟩ := push_deposits sound accepted
              obtain ⟨name, found⟩ := plans.found
              obtain ⟨reaches, -⟩ := access_eq_ok sound found
              intro id declared stored
              rw [deposits.declaration] at stored
              by_cases same : id = target.container.id
              · subst same
                obtain rfl := Option.some.inj (stored.symm.trans reaches.declaration)
                rw [deposits.landed]
                exact lands accepted plans (hereditary.part plans.base_sublist (upholds _ _ stored))
              · exact hereditary.part (deposits.elsewhere id same) (upholds _ _ stored)
      | _ => contradiction

/-- A rule on single slots is kept if the slots that a push lets land follow it, and if slots whose
value is overwritten do. -/
theorem Upholds.perform_forall {fits : Container → Slot → Prop}
    (upholds : state.Upholds fun declared content => ∀ slot ∈ content, fits declared slot)
    (mixes : ∀ {declared : Container} {old slot : Slot}, fits declared old → fits declared slot →
      fits declared { old with value := slot.value })
    (sound : state.Sound) (operation : Operation) (span : Span)
    (lands : ∀ {target base planned}, (state.perform operation span).verdict.ok = true →
      state.Plans span operation target base planned →
      ∀ pair ∈ planned, fits target.container.declaration pair.2) :
    (state.perform operation span).state.Upholds
      fun declared content => ∀ slot ∈ content, fits declared slot := by
  apply upholds.perform _ sound
  · intro target base planned accepted plans fit
    exact Content.forall_mem_landAll mixes fit (lands accepted plans)
  · constructor
    · intro declared slot member
      contradiction
    · intro declared content fewer part fit slot member
      exact fit slot (part.subset member)

end State

end Custody
