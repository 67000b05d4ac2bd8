import Custody.Proofs.Typing

/-!
# Moves of a head

A push that moves the head of one container to another has checks of its own, in an order of its
own.  They let through exactly what a pop of the head and a push of its value let through, one
after the other, and leave the same behind.
-/

namespace Custody

/-! ## Conversions -/

/-- What a conversion stands for stands for itself. -/
theorem Conversion.resolve_resolved {kind resolved : Conversion} {source target : Element}
    (resolves : kind.resolve source target = .ok resolved) :
    resolved.resolve source target = .ok resolved := by
  have named : ∀ row ∈ table, row.1 ≠ .auto := by decide
  simp only [resolve] at resolves ⊢
  split at resolves
  · rename_i row found
    have listed := List.mem_of_find?_eq_some found
    have fits := List.find?_some found
    rw [decide_eq_true_eq] at fits
    rw [← Except.ok.inj resolves]
    split
    · rename_i other otherFound
      have otherFits := List.find?_some otherFound
      rw [decide_eq_true_eq] at otherFits
      exact congrArg Except.ok (otherFits.2.2.resolve_left (named row listed))
    · rename_i absent
      have unfit := List.find?_eq_none.mp absent row listed
      simp [fits.1, fits.2.1] at unfit
  · contradiction

namespace Value

/-- A value is converted as what the conversion stands for. -/
theorem convert_resolved {value : Value} {kind resolved : Conversion} {target : Element}
    (resolves : kind.resolve value.element target = .ok resolved) :
    value.convert resolved target = value.convert kind target := by
  simp only [convert, resolves, Conversion.resolve_resolved resolves]

/-- What a push makes of a value. -/
def Converts (value : Value) (conversion : Option Conversion) (target : Element)
    (converted : Option Value) : Prop :=
  match conversion with
  | none => value.element = target ∧ converted = some value
  | some kind => value.convert kind target = .ok converted

theorem convertFor_eq_ok_iff {value : Value} {conversion : Option Conversion} {target : Element}
    {span : Span} {converted : Option Value} :
    value.convertFor conversion target span = .ok converted ↔
      value.Converts conversion target converted := by
  cases conversion with
  | none =>
      rw [convertFor, Converts]
      split
      · rename_i same
        rw [Except.ok.injEq, eq_comm]
        exact (and_iff_right same).symm
      · rename_i different
        simp [different]
  | some kind => exact Check.mapError_eq_ok

end Value

theorem SlotSet.range_self (position : Nat) :
    SlotSet.range position position = .singleton position := by
  ext other
  rw [Bool.eq_iff_iff, ← mem_iff, ← mem_iff, mem_range, mem_singleton]
  omega

namespace Access

variable {access source target : Access} {state : State} {span : Span}

theorem mapM_convertSlot_eq_ok_iff {kind : Conversion} {found wanted : Element} {slot : Slot}
    {slots : List Slot} {value : Value} (known : slot.value = some value) :
    [slot].mapM (convertSlot (some kind) found wanted span) = .ok slots ↔
      ∃ converted, value.convert kind wanted = .ok converted ∧
        slots = [{ slot with value := converted }] := by
  simp only [List.mapM_cons, List.mapM_nil, convertSlot, known, Check.bind_eq_ok,
    Check.mapError_eq_ok, Check.pure_eq_ok]
  constructor
  · rintro ⟨_, ⟨converted, converts, rfl⟩, _, rfl, rfl⟩
    exact ⟨converted, converts, rfl⟩
  · rintro ⟨converted, converts, rfl⟩
    exact ⟨_, ⟨converted, converts, rfl⟩, [], rfl, rfl⟩

/-- A moved head is converted as a literal of its value is. -/
theorem convertSlots_move_iff {conversion : Option Conversion} {head : Nat} {slot : Slot}
    {value : Value} {slots : List Slot} (found : source.container.content[head]? = some slot)
    (known : slot.value = some value) (typed : value.element = source.container.element) :
    source.convertSlots target .move conversion head span = .ok slots ↔
      ∃ converted, value.Converts conversion target.container.element converted ∧
        slots = [{ slot with value := converted }] := by
  simp only [convertSlots, Effect.borrowMode?, Option.isSome_none, Bool.false_eq_true, ↓reduceIte,
    reduceCtorEq, found, Option.toList_some, Check.throw_eq_error]
  cases conversion with
  | none =>
      have unchanged : (pure none >>= fun kind => [slot].mapM (convertSlot kind
          source.container.element target.container.element span)) = Except.ok [slot] := by
        simp only [pure_bind, List.mapM_cons, List.mapM_nil, convertSlot, known]
        rfl
      simp only [Value.Converts, typed, ← known]
      by_cases agree : source.container.element = target.container.element
      · rw [if_neg (not_not_intro agree), unchanged, Except.ok.injEq, eq_comm]
        constructor
        · intro same
          exact ⟨slot.value, ⟨agree, rfl⟩, same⟩
        · rintro ⟨_, ⟨-, rfl⟩, same⟩
          exact same
      · rw [if_pos agree]
        constructor
        · intro passed
          contradiction
        · rintro ⟨_, ⟨same, -⟩, -⟩
          exact (agree same).elim
  | some kind =>
      dsimp only
      cases resolves : kind.resolve source.container.element target.container.element with
      | error fault =>
          constructor
          · intro passed
            contradiction
          · rintro ⟨converted, converts, -⟩
            simp only [Value.Converts, Value.convert, typed, resolves] at converts
            contradiction
      | ok resolved =>
          simp only [Value.Converts, pure_bind]
          rw [← Value.convert_resolved (typed ▸ resolves)]
          exact mapM_convertSlot_eq_ok_iff known

/-! ## Checks, whatever their wording and their place -/

/-- Whether the container may be changed through an access. -/
structure Writable (access : Access) : Prop where
  usable : access.container.isUsable = true
  mutates : access.container.mode.canMutate = true
  through : ∀ record, access.view = some record → record.mode.isMutable = true

theorem ensureWritable_eq_ok_iff {action : WriteAction} :
    access.ensureWritable action span = .ok () ↔ access.Writable := by
  simp only [ensureWritable, Check.throw_eq_error, Check.error_bind, Check.bind_eq_ok,
    Check.reject_eq_ok, Bool.not_eq_true, Bool.not_eq_false']
  constructor
  · rintro ⟨_, usable, mutates, passed⟩
    refine ⟨Container.ensureUsable_eq_ok_iff.mp usable, mutates, ?_⟩
    intro record viewed
    simpa [viewed] using passed
  · rintro ⟨usable, mutates, through⟩
    refine ⟨(), Container.ensureUsable_eq_ok_iff.mpr usable, mutates, ?_⟩
    cases viewed : access.view with
    | none => rfl
    | some record => simp [through record viewed]

/-- A write is let through exactly when it touches no rival. -/
theorem ensureUnborrowed_eq_ok_iff (sound : state.Sound) {footprint : SlotSet} {attempt : Attempt}
    (found : state.container? access.container.id = some access.container) :
    access.ensureUnborrowed state.ledger footprint attempt span = .ok () ↔
      ∀ record, state.ledger.Rival access.container.id access.record? record →
        ∀ position ∈ record.slots, position ∉ footprint := by
  rw [ensureUnborrowed]
  split
  · rw [Check.mapError_eq_ok, sound.ledger.checkWrite_eq_ok]
  · rename_i unledgered
    refine ⟨?_, fun _ => rfl⟩
    intro _ record rival
    exact absurd (sound.rival_inside found rival).1 unledgered

/-- The head can be removed through an access. -/
structure YieldsHead (access : Access) (ledger : Ledger) : Prop where
  writable : access.Writable
  filled : access.container.content ≠ []
  within : ∀ record, access.view = some record → access.container.length - 1 ∈ record.slots
  free : ∀ record, ledger.Rival access.container.id access.record? record →
    access.container.length - 1 ∉ record.slots

theorem ensureHeadInView_eq_ok_iff {head : Nat} :
    access.ensureHeadInView head span = .ok () ↔
      ∀ record, access.view = some record → head ∈ record.slots := by
  rw [ensureHeadInView]
  cases access.view with
  | none => exact ⟨nofun, fun _ => rfl⟩
  | some record =>
      simp only [Option.some.injEq, forall_eq', SlotSet.mem_iff]
      split <;> simp_all

theorem ensureUnborrowed_head_iff (sound : state.Sound) {head : Nat} {attempt : Attempt}
    (found : state.container? access.container.id = some access.container) :
    access.ensureUnborrowed state.ledger (.singleton head) attempt span = .ok () ↔
      ∀ record, state.ledger.Rival access.container.id access.record? record →
        head ∉ record.slots := by
  rw [ensureUnborrowed_eq_ok_iff sound found]
  constructor
  · intro clear record rival member
    exact clear record rival head member (SlotSet.mem_singleton.mpr rfl)
  · intro clear record rival position member same
    exact clear record rival (SlotSet.mem_singleton.mp same ▸ member)

/-- A pop without an extent is let through exactly when it can remove the head. -/
theorem checkPop_eq_ok_iff (sound : state.Sound) (reaches : state.Reaches access)
    (unhashed : access.binding.perspective ≠ .hashed) {removed : SlotSet} :
    access.checkPop state.ledger none span = .ok removed ↔
      access.YieldsHead state.ledger ∧ removed = .singleton (access.container.length - 1) := by
  have covers : ∀ {slots : SlotSet} {head : Nat}, slots.covers (.singleton head) = true ↔
      head ∈ slots := by
    intro slots head
    rw [SlotSet.covers_iff]
    exact ⟨fun all => all head (SlotSet.mem_singleton.mpr rfl),
      fun member _ same => SlotSet.mem_singleton.mp same ▸ member⟩
  -- A pop touches all from the lowest slot removed up to the head, which is the head alone here.
  have footprint : SlotSet.range ((SlotSet.singleton (access.container.length - 1)).min?.getD 0)
      (access.container.length - 1) = .singleton (access.container.length - 1) := by
    rw [SlotSet.min?, SlotSet.toList_singleton]
    exact SlotSet.range_self _
  simp only [checkPop, removal, unhashed, ↓reduceIte, Check.throw_eq_error, Check.error_bind,
    Check.bind_eq_ok, Check.reject_eq_ok, List.isEmpty_iff, Except.ok.injEq]
  constructor
  · rintro ⟨_, writable, _, ⟨filled, rfl⟩, passed⟩
    have writable := ensureWritable_eq_ok_iff.mp writable
    rw [footprint] at passed
    cases viewed : access.view with
    | none =>
        simp only [viewed, Check.bind_eq_ok, Check.pure_eq_ok] at passed
        obtain ⟨_, free, rfl⟩ := passed
        exact ⟨⟨writable, filled, by simp [viewed],
          (ensureUnborrowed_head_iff sound reaches.container).mp free⟩, rfl⟩
    | some record =>
        simp only [viewed, Check.bind_eq_ok, Check.pure_eq_ok, Check.reject_eq_ok,
          Bool.not_eq_true, Bool.not_eq_false'] at passed
        obtain ⟨within, _, free, rfl⟩ := passed
        exact ⟨⟨writable, filled, by simpa [viewed] using covers.mp within,
          (ensureUnborrowed_head_iff sound reaches.container).mp free⟩, rfl⟩
  · rintro ⟨⟨writable, filled, within, free⟩, rfl⟩
    refine ⟨(), ensureWritable_eq_ok_iff.mpr writable, _, ⟨filled, rfl⟩, ?_⟩
    rw [footprint]
    have unborrowed : access.ensureUnborrowed state.ledger
        (.singleton (access.container.length - 1)) (.pop access.container.name) span = .ok () :=
      (ensureUnborrowed_head_iff sound reaches.container).mpr free
    cases viewed : access.view with
    | none =>
        simp only [unborrowed]
        rfl
    | some record =>
        simp only [unborrowed, covers.mpr (within record viewed)]
        rfl

/-- The check of the source of a move passes exactly when the head can be removed. -/
theorem checkSource_move_iff (sound : state.Sound) (reaches : state.Reaches source) {head : Nat} :
    source.checkSource target state.ledger .move span = .ok head ↔
      source.YieldsHead state.ledger ∧ head = source.container.length - 1 := by
  simp only [checkSource, checkMove, Check.throw_eq_error, Check.error_bind, Check.bind_eq_ok,
    Check.reject_eq_ok, Check.pure_eq_ok]
  constructor
  · rintro ⟨_, -, -, filled, _, ⟨_, writable, _, within, free⟩, rfl⟩
    refine ⟨⟨ensureWritable_eq_ok_iff.mp writable, by simpa using filled,
      ensureHeadInView_eq_ok_iff.mp within,
      (ensureUnborrowed_head_iff sound reaches.container).mp free⟩, rfl⟩
  · rintro ⟨⟨writable, filled, within, free⟩, rfl⟩
    exact ⟨(), Container.ensureUsable_eq_ok_iff.mpr writable.usable, by simp, by simpa using filled,
      (), ⟨(), ensureWritable_eq_ok_iff.mpr writable, (), ensureHeadInView_eq_ok_iff.mpr within,
        (ensureUnborrowed_head_iff sound reaches.container).mpr free⟩, rfl⟩

/-- A push lands where it lands, wherever in the stream it stands. -/
theorem placement_span {key : Option Value} {placement : Placement} (other : Span)
    (placed : access.placement key span = .ok placement) :
    access.placement key other = .ok placement := by
  simp only [Access.placement] at placed ⊢
  split at placed
  · contradiction
  · split at placed
    · contradiction
    · rename_i keyType found
      rw [Check.reject_eq_ok] at placed
      simp [placed.1, placed.2]
  · split at placed <;> contradiction
  · exact placed
  · exact placed

/-- A slot can be inserted through an access. -/
structure Admits (access : Access) (ledger : Ledger) (key : Option Value) (placement : Placement) :
    Prop where
  writable : access.Writable
  placed : ∀ span, access.placement key span = .ok placement
  within : ∀ record, access.view = some record →
    placement.isWithin record.slots access.container.length = true
  free : ∀ record, ledger.Rival access.container.id access.record? record →
    ∀ position ∈ record.slots, position ∉ placement.footprint access.container.length

theorem checkInsertions_eq_ok_iff (sound : state.Sound) (reaches : state.Reaches access)
    {placement : Placement} :
    access.checkInsertions state.ledger [placement] span = .ok () ↔
      (∀ record, access.view = some record →
        placement.isWithin record.slots access.container.length = true) ∧
      ∀ record, state.ledger.Rival access.container.id access.record? record →
        ∀ position ∈ record.slots, position ∉ placement.footprint access.container.length := by
  have clear : access.ensureUnborrowed state.ledger
      (Placement.footprints [placement] access.container.length) (.push access.container.name)
      span = .ok () ↔ ∀ record, state.ledger.Rival access.container.id access.record? record →
        ∀ position ∈ record.slots, position ∉ placement.footprint access.container.length := by
    rw [ensureUnborrowed_eq_ok_iff sound reaches.container]
    simp only [Placement.mem_footprints, List.mem_singleton, exists_eq_left]
  rw [← clear]
  simp only [checkInsertions]
  cases access.view with
  | none => simp
  | some record =>
      simp only [Option.some.injEq, forall_eq']
      cases inside : placement.isWithin record.slots access.container.length with
      | true => simp [inside]
      | false => simp [inside]

/-- What a push checks of its target once the value is converted. -/
theorem admits_iff (sound : state.Sound) (reaches : state.Reaches access) {key : Option Value}
    {placement : Placement} :
    (access.ensureWritable .push span = .ok () ∧ access.placement key span = .ok placement ∧
      access.checkInsertions state.ledger [placement] span = .ok ()) ↔
      access.Admits state.ledger key placement := by
  rw [ensureWritable_eq_ok_iff, checkInsertions_eq_ok_iff sound reaches]
  constructor
  · rintro ⟨writable, placed, within, free⟩
    exact ⟨writable, fun other => placement_span other placed, within, free⟩
  · rintro ⟨writable, placed, within, free⟩
    exact ⟨writable, placed span, within, free⟩

/-- The check of the target of a move passes exactly when a slot can be inserted. -/
theorem checkTarget_move_iff (sound : state.Sound) (reaches : state.Reaches target)
    {key : Option Value} {slots : List Slot} {placements : List Placement} :
    target.checkTarget source state.ledger .move key slots span = .ok placements ↔
      ∃ placement, target.Admits state.ledger key placement ∧ placements = [placement] := by
  simp only [checkTarget, reduceCtorEq, ↓reduceIte, Check.bind_eq_ok, Check.pure_eq_ok,
    ← @admits_iff target state span sound reaches]
  constructor
  · rintro ⟨_, writable, placement, placed, _, rfl, _, passed, rfl⟩
    exact ⟨placement, ⟨writable, placed, passed⟩, rfl⟩
  · rintro ⟨placement, ⟨writable, placed, passed⟩, rfl⟩
    exact ⟨(), writable, placement, placed, [placement], rfl, (), passed, rfl⟩

end Access

/-! ## What the operations amount to -/

namespace State

variable {state : State} {name : String} {span : Span} {access : Access} {outcome : Outcome}
  {key : Option Value} {conversion : Option Conversion}

theorem withAccess_eq_of_reach {operate : Access → Except Diagnostic Outcome}
    (found : state.reach? name = some access) :
    state.withAccess name span operate = operate access := by
  simp only [withAccess, access_eq_ok_iff.mpr found]
  rfl

/-- What a slot pushed through an access leaves behind. -/
def pushed (state : State) (access : Access) (placement : Placement) (slot : Slot) : Outcome :=
  let after := state.insert access placement slot
  ⟨after, after.describeAccess access [slot.value], []⟩

/-- What the removal of a head through an access leaves behind. -/
def popped (state : State) (access : Access) : Outcome :=
  let (slots, after) := state.remove access (.singleton (access.container.length - 1))
  ⟨after, after.describeAccess access (slots.map (·.value)), []⟩

theorem pop_eq_ok_iff (sound : state.Sound) (found : state.reach? name = some access)
    (unhashed : access.binding.perspective ≠ .hashed) :
    state.pop name none span = .ok outcome ↔
      access.YieldsHead state.ledger ∧ outcome = state.popped access := by
  have reaches := (sound.reach found span).1
  rw [pop, withAccess_eq_of_reach found]
  simp only [Check.bind_eq_ok, Check.pure_eq_ok, Access.checkPop_eq_ok_iff sound reaches unhashed]
  constructor
  · rintro ⟨_, ⟨yields, rfl⟩, rfl⟩
    exact ⟨yields, rfl⟩
  · rintro ⟨yields, rfl⟩
    exact ⟨_, ⟨yields, rfl⟩, rfl⟩

theorem pushValue_eq_ok_iff (sound : state.Sound) (found : state.reach? name = some access)
    {value : Value} :
    state.pushValue name value key conversion span = .ok outcome ↔
      ∃ converted placement, value.Converts conversion access.container.element converted ∧
        access.Admits state.ledger key placement ∧
        outcome = state.pushed access placement ⟨converted, key⟩ := by
  have reaches := (sound.reach found span).1
  rw [pushValue, withAccess_eq_of_reach found]
  simp only [Check.bind_eq_ok, Check.pure_eq_ok, Value.convertFor_eq_ok_iff,
    ← @Access.admits_iff access state span sound reaches]
  constructor
  · rintro ⟨_, writable, converted, converts, placement, placed, _, passed, rfl⟩
    exact ⟨converted, placement, converts, ⟨writable, placed, passed⟩, rfl⟩
  · rintro ⟨converted, placement, converts, ⟨writable, placed, passed⟩, rfl⟩
    exact ⟨(), writable, converted, converts, placement, placed, (), passed, rfl⟩

/-! ## Moves -/

variable {source target : String} {origin into : Access}

theorem binding?_remove {removed : SlotSet} :
    (state.remove origin removed).2.binding? = state.binding? := by
  funext id
  rw [binding?, bindings_remove]
  rfl

/-- Borrows on other containers are the same once slots are removed. -/
theorem mem_records_remove (sound : state.Sound) (reaches : state.Reaches origin)
    {removed : SlotSet} {record : BorrowRecord}
    (elsewhere : record.container ≠ origin.container.id) :
    record ∈ (state.remove origin removed).2.ledger.records ↔ record ∈ state.ledger.records := by
  -- Only the borrow that the removal is made through is compacted, and it is on the container
  -- that the slots are removed from.
  have apart : ∀ {other : BorrowRecord}, other ∈ state.ledger.records →
      other.container ≠ origin.container.id → some other.id ≠ origin.record? := by
    intro other active different own
    exact different (reaches.acts sound other active own)
  rw [records_remove sound, List.mem_map]
  constructor
  · rintro ⟨old, active, rfl⟩
    have unchanged : ¬some old.id = origin.record? := by
      apply apart active
      split at elsewhere <;> exact elsewhere
    rw [if_neg unchanged]
    exact active
  · intro active
    exact ⟨record, active, if_neg (apart active elsewhere)⟩

theorem rival_remove_iff (sound : state.Sound) (reaches : state.Reaches origin)
    {removed : SlotSet} {id : ContainerId} (elsewhere : id ≠ origin.container.id)
    {actor : Option RecordId} {record : BorrowRecord} :
    (state.remove origin removed).2.ledger.Rival id actor record ↔
      state.ledger.Rival id actor record := by
  constructor
  · rintro ⟨member, onContainer, ledgered, other⟩
    exact ⟨(mem_records_remove sound reaches (onContainer ▸ elsewhere)).mp member, onContainer,
      ledgered, other⟩
  · rintro ⟨member, onContainer, ledgered, other⟩
    exact ⟨(mem_records_remove sound reaches (onContainer ▸ elsewhere)).mpr member, onContainer,
      ledgered, other⟩

/-- The binding of an access that is up to date reaches it. -/
theorem Reaches.accessOf? (sound : state.Sound) (reaches : state.Reaches access) :
    state.accessOf? access.binding = some access := by
  obtain ⟨binding, container, view⟩ := access
  have found : state.container? container.id = some container := reaches.container
  cases view with
  | none =>
      have referent : binding.referent = .direct container.id := reaches.direct rfl
      simp only [State.accessOf?, referent, found, Option.map_some]
  | some record =>
      obtain ⟨referent, active, onContainer⟩ := reaches.view rfl
      have active := sound.ledger.get?_eq_some_iff.mpr ⟨active, rfl⟩
      dsimp only at referent onContainer
      simp only [State.accessOf?, referent, active, Option.bind_some, onContainer, found,
        Option.map_some]

/-- An access to another container stays up to date when slots are removed. -/
theorem Reaches.remove (sound : state.Sound) (reaches : state.Reaches origin)
    (other : state.Reaches into) {removed : SlotSet}
    (elsewhere : into.container.id ≠ origin.container.id) :
    (state.remove origin removed).2.Reaches into := by
  refine ⟨?_, ?_, ?_, other.direct, ?_⟩
  · rw [binding?_remove]
    exact other.binding
  · rw [scopes_remove]
    exact other.opened
  · rw [container?_remove, if_neg elsewhere]
    exact other.container
  · intro record viewed
    obtain ⟨referent, active, onContainer⟩ := other.view viewed
    exact ⟨referent, (mem_records_remove sound reaches (onContainer ▸ elsewhere)).mpr active,
      onContainer⟩

/-- A name reaches what it reached in another container, once slots are removed. -/
theorem reach?_remove (sound : state.Sound) (reaches : state.Reaches origin) {removed : SlotSet}
    (after : (state.remove origin removed).2.Sound) (found : state.reach? target = some into)
    (elsewhere : into.container.id ≠ origin.container.id) :
    (state.remove origin removed).2.reach? target = some into := by
  obtain ⟨reachesInto, lookup, -⟩ := sound.reach found {}
  have still := (reaches.remove sound reachesInto elsewhere).accessOf? after
  have bound : (state.remove origin removed).2.lookupBinding target {} = .ok into.binding := by
    rw [lookupBinding, scopes_remove, binding?_remove]
    exact lookup
  apply (@access_eq_ok_iff _ target {} into).mp
  rw [State.access, bound]
  exact congrArg Except.ok still

/-- A check of a move plans what a removal and a push do. -/
theorem checkTransfer_move_iff (sound : state.Sound) (fromSource : state.Reaches origin)
    (toTarget : state.Reaches into) {slot : Slot} {value : Value} {transfer : Transfer}
    (head : origin.container.content[origin.container.length - 1]? = some slot)
    (known : slot.value = some value) (typed : value.element = origin.container.element) :
    state.checkTransfer into origin .move key conversion span = .ok transfer ↔
      origin.YieldsHead state.ledger ∧ ∃ converted placement,
        value.Converts conversion into.container.element converted ∧
        into.Admits state.ledger key placement ∧
        transfer =
          { target := into, source := origin, effect := .move,
            head := origin.container.length - 1, slots := [⟨converted, key⟩],
            placements := [placement] } := by
  simp only [checkTransfer, Check.bind_eq_ok, Check.mapError_eq_ok, Check.pure_eq_ok,
    Access.checkSource_move_iff sound fromSource, reduceCtorEq, ↓reduceIte,
    Access.checkTarget_move_iff sound toTarget]
  constructor
  · rintro ⟨_, ⟨yields, rfl⟩, slots, passed, _, ⟨placement, admits, rfl⟩, rfl⟩
    obtain ⟨converted, converts, rfl⟩ := (Access.convertSlots_move_iff head known typed).mp passed
    exact ⟨yields, converted, placement, converts, admits, rfl⟩
  · rintro ⟨yields, converted, placement, converts, admits, rfl⟩
    exact ⟨_, ⟨yields, rfl⟩, _,
      (Access.convertSlots_move_iff head known typed).mpr ⟨converted, converts, rfl⟩, _,
      ⟨placement, admits, rfl⟩, rfl⟩

/-- A move between containers inserts where it was planned. -/
theorem commitTransfer_move (toTarget : state.Reaches into)
    (apart : into.container.id ≠ origin.container.id) {removed : Nat} {placement : Placement}
    {slot : Slot} (placed : into.placement slot.key span = .ok placement) :
    state.commitTransfer
        { target := into, source := origin, effect := .move, head := removed, slots := [slot],
          placements := [placement] } span =
      .ok (none, (state.remove origin (.singleton removed)).2.insert into placement slot) := by
  have landing : ((state.remove origin (.singleton removed)).2.content into.container.id).landing
      placement slot = placement := by
    rw [content_remove_of_ne apart, toTarget.content]
    exact Access.landing_placement placed rfl
  have carriedOut := congrArg
    (fun landed => (state.remove origin (.singleton removed)).2.insert into landed slot) landing
  simp only [commitTransfer, commitMove, if_neg apart.symm]
  exact congrArg (fun after => Except.ok (none, after)) carriedOut

/-- A move of the head is a removal and a push, under the checks of both. -/
theorem transfer_eq_ok_iff (sound : state.Sound) (fromSource : state.reach? source = some origin)
    (toTarget : state.reach? target = some into)
    (apart : into.container.id ≠ origin.container.id) {slot : Slot} {value : Value}
    (head : origin.container.content[origin.container.length - 1]? = some slot)
    (known : slot.value = some value) (typed : value.element = origin.container.element) :
    state.transfer target source .move key conversion span = .ok outcome ↔
      origin.YieldsHead state.ledger ∧ ∃ converted placement,
        value.Converts conversion into.container.element converted ∧
        into.Admits state.ledger key placement ∧
        outcome = (state.popped origin).state.pushed into placement ⟨converted, key⟩ := by
  have fromOrigin := (sound.reach fromSource span).1
  have toInto := (sound.reach toTarget span).1
  have commits : ∀ {converted placement}, into.Admits state.ledger key placement →
      state.commitTransfer
          { target := into, source := origin, effect := .move,
            head := origin.container.length - 1, slots := [⟨converted, key⟩],
            placements := [placement] } span =
        .ok (none, (state.remove origin (.singleton (origin.container.length - 1))).2.insert into
          placement ⟨converted, key⟩) :=
    fun admits => commitTransfer_move toInto apart (admits.placed span)
  rw [transfer, withAccess_eq_of_reach toTarget, access_eq_ok_iff.mpr fromSource]
  simp only [Check.bind_eq_ok, Check.mapError_eq_ok, Check.pure_eq_ok, Except.ok.injEq,
    exists_eq_left', checkTransfer_move_iff sound fromOrigin toInto head known typed]
  constructor
  · rintro ⟨_, ⟨yields, converted, placement, converts, admits, rfl⟩, result, carriedOut, rfl⟩
    cases (commits admits).symm.trans carriedOut
    exact ⟨yields, converted, placement, converts, admits, rfl⟩
  · rintro ⟨yields, converted, placement, converts, admits, rfl⟩
    exact ⟨_, ⟨yields, converted, placement, converts, admits, rfl⟩, _, commits admits, rfl⟩

/-- What can be inserted elsewhere before slots are removed can be inserted after. -/
theorem admits_remove_iff (sound : state.Sound) (reaches : state.Reaches origin)
    {removed : SlotSet} (elsewhere : into.container.id ≠ origin.container.id)
    {placement : Placement} :
    into.Admits (state.remove origin removed).2.ledger key placement ↔
      into.Admits state.ledger key placement := by
  constructor
  · rintro ⟨writable, placed, within, free⟩
    refine ⟨writable, placed, within, ?_⟩
    intro record rival
    exact free record ((rival_remove_iff sound reaches elsewhere).mpr rival)
  · rintro ⟨writable, placed, within, free⟩
    refine ⟨writable, placed, within, ?_⟩
    intro record rival
    exact free record ((rival_remove_iff sound reaches elsewhere).mp rival)

/-- A move of the head is a pop of it and then a push of its value. -/
theorem transfer_eq_pop_push (sound : state.Sound) (fromSource : state.reach? source = some origin)
    (toTarget : state.reach? target = some into)
    (apart : into.container.id ≠ origin.container.id)
    (unhashed : origin.binding.perspective ≠ .hashed) {slot : Slot} {value : Value}
    (head : origin.container.content[origin.container.length - 1]? = some slot)
    (known : slot.value = some value) (typed : value.element = origin.container.element)
    (atPop atPush : Span) :
    state.transfer target source .move key conversion span = .ok outcome ↔
      ∃ popped, state.pop source none atPop = .ok popped ∧
        popped.state.pushValue target value key conversion atPush = .ok outcome := by
  have reaches := (sound.reach fromSource span).1
  -- The pop leaves the name, the container and the borrows of the target alone, so the push meets
  -- there what the move meets.
  have pushes : ∀ {popped}, state.pop source none atPop = .ok popped →
      (popped.state.pushValue target value key conversion atPush = .ok outcome ↔
        ∃ converted placement, value.Converts conversion into.container.element converted ∧
          into.Admits state.ledger key placement ∧
          outcome = popped.state.pushed into placement ⟨converted, key⟩) := by
    intro popped passed
    have after := (pop_changes sound passed).sound sound
    obtain ⟨-, rfl⟩ := (pop_eq_ok_iff sound fromSource unhashed).mp passed
    rw [pushValue_eq_ok_iff after (reach?_remove sound reaches after toTarget apart)]
    simp only [popped, admits_remove_iff sound reaches apart]
  rw [transfer_eq_ok_iff sound fromSource toTarget apart head known typed]
  constructor
  · rintro ⟨yields, landed⟩
    have passed : state.pop source none atPop = .ok (state.popped origin) :=
      (pop_eq_ok_iff sound fromSource unhashed).mpr ⟨yields, rfl⟩
    exact ⟨_, passed, (pushes passed).mpr landed⟩
  · rintro ⟨popped, passed, pushed⟩
    have landed := (pushes passed).mp pushed
    obtain ⟨yields, rfl⟩ := (pop_eq_ok_iff sound fromSource unhashed).mp passed
    exact ⟨yields, landed⟩

/-- Operations of which one has exactly the results of two others, one after the other, are accepted
together, and then come out the same. -/
theorem settle_sequence {whole first : Except Diagnostic Outcome}
    {second : State → Except Diagnostic Outcome}
    (composed : ∀ {outcome}, whole = .ok outcome ↔
      ∃ middle, first = .ok middle ∧ second middle.state = .ok outcome)
    (accepts : ∀ {middle}, first = .ok middle → middle.verdict.ok = true) :
    let middle := state.settle first
    let last := middle.state.settle (second middle.state)
    ((state.settle whole).verdict.ok = true ↔
      middle.verdict.ok = true ∧ last.verdict.ok = true) ∧
      ((state.settle whole).verdict.ok = true → state.settle whole = last) := by
  cases first with
  | error fault =>
      cases whole with
      | ok outcome =>
          obtain ⟨middle, failed, -⟩ := composed.mp rfl
          contradiction
      | error other =>
          exact ⟨⟨nofun, fun both => absurd both.1 Bool.false_ne_true⟩, nofun⟩
  | ok middle =>
      have same : ∀ {outcome}, whole = .ok outcome ↔ second middle.state = .ok outcome := by
        intro outcome
        rw [composed]
        simp only [Except.ok.injEq, exists_eq_left']
      cases whole with
      | ok outcome =>
          simp only [settle, same.mp rfl, accepts rfl, true_and, implies_true, and_self]
      | error other =>
          cases result : second middle.state with
          | ok outcome => exact absurd (same.mpr result) nofun
          | error fault =>
              simp only [settle, result]
              exact ⟨⟨nofun, fun both => absurd both.2 Bool.false_ne_true⟩, nofun⟩

end State

namespace Verification

variable {source target : String} {origin into : Access}

/-- In every state of a run, a push that moves the head of one container to another is accepted
exactly when a pop of the head and then a push of its value are, and comes out as they do. -/
theorem move_eq_pop_push (nodes : List Node)
    (fromSource : (run {} nodes).state.reach? source = some origin)
    (toTarget : (run {} nodes).state.reach? target = some into)
    (apart : origin.container.id ≠ into.container.id)
    (unhashed : origin.binding.perspective ≠ .hashed) {slot : Slot} {value : Value}
    (head : origin.container.content.head? = some slot) (known : slot.value = some value)
    (key : Option Value) (conversion : Option Conversion) (atMove atPop atPush : Span) :
    let state := (run {} nodes).state
    let moved := state.perform (.push target (.transfer source .move) key conversion) atMove
    let popped := state.perform (.pop source none) atPop
    let pushed := popped.state.perform (.push target (.value value) key conversion) atPush
    (moved.verdict.ok = true ↔ popped.verdict.ok = true ∧ pushed.verdict.ok = true) ∧
      (moved.verdict.ok = true → moved = pushed) := by
  intro state moved popped pushed
  have sound : state.Sound := run_sound nodes
  have typed : state.ValuesTyped := by
    apply run_preserves
    · intro container undeclared
      contradiction
    · intro state node sound typed
      exact typed.perform sound node.operation node.span
  have reaches := (sound.reach fromSource {}).1
  have listed : slot ∈ origin.container.content := List.mem_of_getLast? head
  have element : value.element = origin.container.element :=
    reaches.upholds (State.valuesTyped_iff.mp typed) slot listed value known
  have last : origin.container.content[origin.container.length - 1]? = some slot :=
    List.getLast?_eq_getElem?.symm.trans head
  have accepts : ∀ {removed}, state.pop source none atPop = .ok removed →
      removed.verdict.ok = true := by
    intro removed pops
    rw [((State.pop_eq_ok_iff sound fromSource unhashed).mp pops).2]
    rfl
  exact @State.settle_sequence state _ _
    (fun after => after.pushValue target value key conversion atPush)
    (State.transfer_eq_pop_push sound fromSource toTarget apart.symm unhashed last known element
      atPop atPush) accepts

/-- A run that lends two slots of one container and fills another, which is keyed. -/
def lentAndKeyed : List Node :=
  [⟨.declare "numbers" .integer none .owned, {}⟩,
    ⟨.bind "n" "numbers" none, {}⟩,
    ⟨.push "n" (.value (.integer 0)) none none, {}⟩,
    ⟨.push "n" (.value (.integer 7)) none none, {}⟩,
    ⟨.borrow "view" "n" (.range 0 1) .mutable, {}⟩,
    ⟨.declare "flags" .bool (some .string) .owned, {}⟩,
    ⟨.bind "f" "flags" (some .hashed), {}⟩,
    ⟨.push "f" (.value (.bool false)) (some (.string "k")) none, {}⟩]

/-- The head is moved through the view and converted onto the slot with its key. -/
theorem move_eq_pop_push_keyed :
    ∃ origin into slot, (run {} lentAndKeyed).state.reach? "view" = some origin ∧
      (run {} lentAndKeyed).state.reach? "f" = some into ∧
      origin.container.id ≠ into.container.id ∧ origin.binding.perspective ≠ .hashed ∧
      origin.container.content.head? = some slot ∧ slot.value = some (.integer 7) ∧
      let state := (run {} lentAndKeyed).state
      let moved := state.perform
        (.push "f" (.transfer "view" .move) (some (.string "k")) (some .truthy)) {}
      let popped := state.perform (.pop "view" none) {}
      let pushed := popped.state.perform
        (.push "f" (.value (.integer 7)) (some (.string "k")) (some .truthy)) {}
      moved.verdict.ok = true ∧
        (moved.verdict.ok = true ↔ popped.verdict.ok = true ∧ pushed.verdict.ok = true) ∧
        (moved.verdict.ok = true → moved = pushed) := by
  have fromSource : (run {} lentAndKeyed).state.reach? "view" = some _ := rfl
  have toTarget : (run {} lentAndKeyed).state.reach? "f" = some _ := rfl
  refine ⟨_, _, _, fromSource, toTarget, by decide, by decide, rfl, rfl, by decide, ?_⟩
  exact move_eq_pop_push lentAndKeyed fromSource toTarget (by decide) (by decide) rfl rfl
    (some (.string "k")) (some .truthy) {} {} {}

end Verification

end Custody
