import Custody.Proofs.Checks
import Custody.Proofs.Exits
import Custody.Verifier.Step

/-!
# Changes of a state

Every operation is a sequence of a few kinds of change, each under the condition that its checks
have established.  What a run preserves is proved of these changes, one case each, and not of the
operations.
-/

namespace Custody

/-! ## What an operation acts through -/

namespace Operation

/-- The binding that an operation reads, removes, lends or captures from. -/
def source? : Operation → Option String
  | .push _ (.transfer source _) _ _ => some source
  | .pop binding _ => some binding
  | .peek binding _ => some binding
  | .borrow _ source _ _ => some source
  | .capture _ source => some source
  | _ => none

/-- The binding that an operation inserts into or points elsewhere. -/
def target? : Operation → Option String
  | .push binding .. => some binding
  | .capture target _ => some target
  | _ => none

/-- Whether an operation inserts slots. -/
def pushes : Operation → Bool
  | .push .. => true
  | _ => false

/-- Whether an operation moves the content of a whole container into another. -/
def takes : Operation → Bool
  | .push _ (.transfer _ .take) _ _ => true
  | _ => false

/-- Whether an operation creates a borrow of what its source reaches. -/
def lends : Operation → Bool
  | .push _ (.transfer _ effect) _ _ => effect.borrowMode?.isSome
  | .borrow .. => true
  | _ => false

end Operation

/-- What an operation acts through, and which of the checked changes it may make. -/
structure Act where
  /-- The borrow that the source is a view on. -/
  source : Option RecordId
  /-- The borrow that the target is a view on. -/
  target : Option RecordId
  pushes : Bool
  takes : Bool
  lends : Bool

/-- What an operation acts through in a state. -/
def State.act (state : State) (operation : Operation) : Act where
  source := operation.source?.bind state.viewOf?
  target := operation.target?.bind state.viewOf?
  pushes := operation.pushes
  takes := operation.takes
  lends := operation.lends

/-- A container as it was declared, which no later change can tell. -/
def Container.declaration (container : Container) : Container :=
  { container with
    movedAt := none
    liveness := .live
    content := [] }

/-- The declaration of a container. -/
def State.declaration? (state : State) (id : ContainerId) : Option Container :=
  (state.container? id).map (·.declaration)

/-- A borrow of a container whose scope is open. -/
def State.Rooted (state : State) (record : BorrowRecord) : Prop :=
  ∃ declared, state.declaration? record.container = some declared ∧
    declared.scope ∈ state.scopes.path

/-- The borrow that an actor acts through is a borrow of the container it acts on. -/
def Ledger.Acts (ledger : Ledger) (actor : Option RecordId) (container : ContainerId) : Prop :=
  ∀ record ∈ ledger.records, some record.id = actor → record.container = container

/-- A container that has not given its content away, as far as there is one. -/
def State.Unmoved (state : State) (id : ContainerId) : Prop :=
  ∀ container, state.container? id = some container → container.movedAt = none

/-- A container that an operation may move: its mode allows it, nobody borrows it, and no other
operation has moved it.  One operation may name it twice. -/
structure State.Movable (state : State) (id : ContainerId) (span : Span) : Prop where
  unborrowed : ∀ record ∈ state.ledger.records, record.container ≠ id
  owned : ∃ declared, state.declaration? id = some declared ∧ declared.mode.canTake = true
  once : ∀ container, state.container? id = some container →
    container.movedAt = none ∨ container.movedAt = some span

/-- One change.  Slots are inserted through the target and removed through the source; other
borrows are neither shifted nor cut short, and only what is taken may overwrite a slot under one.
Slots are inserted only by pushes and only where the mode of the container allows it, an empty
container lends nothing, a borrow gets a holder only while the scope of its container is open,
only shared containers that can be used are released, and no container that was moved away is
filled, emptied, released or moved again. -/
inductive Change (act : Act) : State → State → Prop
  | declare {state after : State} {name : String} {element : Element} {key : Option Element}
      {mode : Mode} {span : Span} {container : Container}
      (declared : state.register name element key mode span = .ok (container, after)) :
      Change act state after
  | bind {state : State} {name : String} {referent : Referent} {perspective : Perspective}
      {span : Span} (grounds : state.Grounds state.scopes.current referent) :
      Change act state (state.addBinding name referent perspective span).2
  | stand {state : State} {id : BindingId} {stance : Stance} :
      Change act state (state.modifyBinding id fun binding => { binding with stance })
  | capture {state : State} {target : Binding} {referent : Referent} {span : Span}
      (found : state.binding? target.id = some target)
      (grounds : state.Grounds target.scope referent) :
      Change act state (state.modifyBinding target.id fun _ =>
        { target with
          referent
          capturedAt := some span })
  | insert {state : State} {access : Access} {placement : Placement} {slot : Slot}
      (actor : access.record? = act.target)
      (acts : state.ledger.Acts act.target access.container.id)
      (spares : ∀ record, state.ledger.Rival access.container.id act.target record →
        placement.Spares record.slots ∨
          act.takes = true ∧ ∃ position, placement = .replace position)
      (writable : ∃ declared, state.declaration? access.container.id = some declared ∧
        declared.mode.canMutate = true)
      (pushes : act.pushes = true)
      (unmoved : state.Unmoved access.container.id) :
      Change act state (state.insert access placement slot)
  | remove {state : State} {access : Access} {removed : SlotSet}
      (actor : access.record? = act.source)
      (acts : state.ledger.Acts act.source access.container.id)
      (above : ∀ record, state.ledger.Rival access.container.id act.source record →
        ∀ position ∈ record.slots, ∀ gone ∈ removed, position < gone)
      (unmoved : state.Unmoved access.container.id) :
      Change act state (state.remove access removed).2
  | lend {state : State} {region : Region} {container : Container}
      (lends : act.lends = true)
      (found : state.container? region.container = some container)
      (usable : container.movedAt = none ∧ container.isDestroyed = false)
      (inside : ∀ position ∈ region.slots, position < container.length)
      (here : region.scope = state.scopes.current)
      (apart : ∀ record, state.ledger.Rival region.container act.source record →
        region.mode.isMutable = true ∨ record.mode.isMutable = true →
        ∀ position ∈ record.slots, position ∉ region.slots)
      (filled : container.content ≠ [])
      (unheld : region.holder = none) :
      Change act state
        { state with ledger := (state.ledger.insert region container.mode.isLedgered).2 }
  | hold {state : State} {id : RecordId} {holder : BindingId}
      (rooted : ∀ record ∈ state.ledger.records, record.id = id → state.Rooted record) :
      Change act state { state with ledger := state.ledger.setHolder id holder }
  | move {state : State} {id : ContainerId} {span : Span} (movable : state.Movable id span) :
      Change act state (state.markMoved id span)
  | release {state : State} {id : ContainerId} {span : Span}
      (shared : ∃ declared, state.declaration? id = some declared ∧ declared.mode = .shared)
      (usable : ∀ container, state.container? id = some container →
        container.ensureUsable span = .ok ()) :
      Change act state
        { state.modifyContainer id fun container => { container with liveness := .released span }
          with deferred := state.deferred.filter (· ≠ id) }
  | enter {state : State} {kind : ScopeKind} {span : Span} :
      Change act state { state with scopes := (state.scopes.enter kind span).2 }
  | exit {state : State} {span : Span} {closing : Closing}
      (exits : state.exitScope? span = some closing) : Change act state closing.state

/-- Changes made one after another. -/
abbrev Changes (act : Act) : State → State → Prop :=
  Relation.ReflTransGen (Change act)

/-! ## Insertions and removals -/

/-- The positions of a view after an insertion through it, given the length before. -/
def Placement.grow (length : Nat) (slots : SlotSet) : Placement → SlotSet
  | .head => slots.insert length
  | .tail => (slots.shiftUp 1).insert 0
  | .replace _ => slots

namespace State

variable {state : State} {access : Access} {placement : Placement} {slot : Slot}
  {removed : SlotSet} {id : ContainerId} {container : Container}

theorem content_eq (found : state.container? id = some container) :
    state.content id = container.content := by
  rw [content, found]
  rfl

theorem content_setContent (found : state.container? id = some container) (content : Content) :
    (state.setContent id content).content id = content :=
  content_eq (container?_modifyContainer_of_eq_some found ▸ congrArg some (if_pos rfl))

theorem content_setContent_of_ne {other : ContainerId} (different : other ≠ id)
    (content : Content) : (state.setContent id content).content other = state.content other := by
  rw [State.content, setContent, container?_modifyContainer, if_neg different]
  rfl

/-- Records after a borrow was given the positions that its own ones become. -/
private theorem records_rebase_map (sound : state.Sound) {record : BorrowRecord}
    (member : record ∈ state.ledger.records) (change : SlotSet → SlotSet) :
    (state.ledger.rebase record.id (change record.slots)).records =
      state.ledger.records.map fun other =>
        if some other.id = some record.id then { other with slots := change other.slots }
        else other := by
  rw [Ledger.records_rebase]
  apply List.map_congr_left
  intro other otherMember
  by_cases same : other.id = record.id
  · rw [if_pos same, if_pos (congrArg some same),
      sound.ledger.eq_of_id_eq otherMember member same]
  · rw [if_neg same, if_neg (by simpa using same)]

private theorem records_unnamed (sound : state.Sound) {actor : Option RecordId}
    (absent : actor.bind state.ledger.get? = none) (change : BorrowRecord → BorrowRecord) :
    (state.ledger.records.map fun other => if some other.id = actor then change other else other) =
      state.ledger.records := by
  refine (List.map_congr_left ?_).trans (List.map_id' _)
  intro other member
  rw [if_neg]
  rintro rfl
  have found := sound.ledger.get?_eq_some_iff.mpr ⟨member, rfl⟩
  simp [found] at absent

/-- An insertion stores the content and lets the view that it is made through grow. -/
theorem insert_eq (sound : state.Sound) (access : Access) (placement : Placement) (slot : Slot) :
    ∃ ledger : Ledger, ledger.WellFormed ∧
    ledger.nextId = state.ledger.nextId ∧
    state.insert access placement slot =
      { state.setContent access.container.id
          ((state.content access.container.id).insert placement slot) with ledger } ∧
    ledger.records = state.ledger.records.map fun record =>
      if some record.id = access.record? then
        { record with
          slots := placement.grow (state.content access.container.id).length record.slots }
      else record := by
  unfold State.insert
  split
  · rename_i absent
    exact ⟨state.ledger, sound.ledger, rfl, rfl, (records_unnamed sound absent _).symm⟩
  · rename_i record found
    obtain ⟨actor, named, lookup⟩ := Option.bind_eq_some_iff.mp found
    obtain ⟨member, rfl⟩ := Ledger.mem_of_get? lookup
    rw [named]
    split
    · exact ⟨_, Ledger.rebase_wellFormed sound.ledger .., Ledger.nextId_rebase .., rfl,
        records_rebase_map sound member
          (Placement.grow (state.content access.container.id).length · .head)⟩
    · exact ⟨_, Ledger.rebase_wellFormed sound.ledger .., Ledger.nextId_rebase .., rfl,
        records_rebase_map sound member
          (Placement.grow (state.content access.container.id).length · .tail)⟩
    · refine ⟨state.ledger, sound.ledger, rfl, rfl, ?_⟩
      simp only [Placement.grow, ite_self, List.map_id']

/-- A removal stores the content and compacts the view that it is made through. -/
theorem remove_eq (sound : state.Sound) (access : Access) (removed : SlotSet) :
    ∃ ledger : Ledger, ledger.WellFormed ∧
    ledger.nextId = state.ledger.nextId ∧
    (state.remove access removed).2 =
      { state.setContent access.container.id
          ((state.content access.container.id).remove removed.toList).2 with ledger } ∧
    ledger.records = state.ledger.records.map fun record =>
      if some record.id = access.record? then
        { record with slots := record.slots.compact removed }
      else record := by
  simp only [State.remove]
  split
  · rename_i record found
    obtain ⟨actor, named, lookup⟩ := Option.bind_eq_some_iff.mp found
    obtain ⟨member, rfl⟩ := Ledger.mem_of_get? lookup
    rw [named]
    exact ⟨_, Ledger.rebase_wellFormed sound.ledger .., Ledger.nextId_rebase .., rfl,
      records_rebase_map sound member (·.compact removed)⟩
  · rename_i absent
    exact ⟨state.ledger, sound.ledger, rfl, rfl, (records_unnamed sound absent _).symm⟩

theorem records_insert (sound : state.Sound) (access : Access) (placement : Placement)
    (slot : Slot) :
    (state.insert access placement slot).ledger.records = state.ledger.records.map fun record =>
      if some record.id = access.record? then
        { record with
          slots := placement.grow (state.content access.container.id).length record.slots }
      else record := by
  obtain ⟨ledger, -, -, equal, records⟩ := insert_eq sound access placement slot
  rw [equal]
  exact records

theorem records_remove (sound : state.Sound) (access : Access) (removed : SlotSet) :
    (state.remove access removed).2.ledger.records = state.ledger.records.map fun record =>
      if some record.id = access.record? then
        { record with slots := record.slots.compact removed }
      else record := by
  obtain ⟨ledger, -, -, equal, records⟩ := remove_eq sound access removed
  rw [equal]
  exact records

private theorem containers_insert : (state.insert access placement slot).containers =
    (state.setContent access.container.id
      ((state.content access.container.id).insert placement slot)).containers := by
  unfold State.insert
  split
  · rfl
  · split <;> rfl

private theorem containers_remove : (state.remove access removed).2.containers =
    (state.setContent access.container.id
      ((state.content access.container.id).remove removed.toList).2).containers := by
  simp only [State.remove]
  split <;> rfl

theorem scopes_insert : (state.insert access placement slot).scopes = state.scopes := by
  unfold State.insert
  split
  · rfl
  · split <;> rfl

theorem scopes_remove : (state.remove access removed).2.scopes = state.scopes := by
  simp only [State.remove]
  split <;> rfl

theorem bindings_insert : (state.insert access placement slot).bindings = state.bindings := by
  unfold State.insert
  split
  · rfl
  · split <;> rfl

theorem bindings_remove : (state.remove access removed).2.bindings = state.bindings := by
  simp only [State.remove]
  split <;> rfl

private theorem content_congr {after : State} (same : after.containers = state.containers) :
    after.content id = state.content id := by
  simp only [content, container?, same]

theorem content_insert (found : state.container? access.container.id = some container) :
    (state.insert access placement slot).content access.container.id =
      (state.content access.container.id).insert placement slot :=
  (content_congr containers_insert).trans (content_setContent found _)

theorem content_insert_of_ne (different : id ≠ access.container.id) :
    (state.insert access placement slot).content id = state.content id :=
  (content_congr containers_insert).trans (content_setContent_of_ne different _)

theorem content_remove (found : state.container? access.container.id = some container) :
    (state.remove access removed).2.content access.container.id =
      ((state.content access.container.id).remove removed.toList).2 :=
  (content_congr containers_remove).trans (content_setContent found _)

theorem content_remove_of_ne (different : id ≠ access.container.id) :
    (state.remove access removed).2.content id = state.content id :=
  (content_congr containers_remove).trans (content_setContent_of_ne different _)

theorem declaration?_modifyContainer {change : Container → Container}
    (keeps : ∀ container, (change container).declaration = container.declaration)
    (other : ContainerId) :
    (state.modifyContainer id change).declaration? other = state.declaration? other := by
  rw [declaration?, declaration?, container?_modifyContainer]
  split
  · cases state.container? other <;> simp [keeps]
  · rfl

private theorem declaration?_congr {after : State} (same : after.containers = state.containers) :
    after.declaration? id = state.declaration? id := by
  simp only [declaration?, container?, same]

private theorem declaration?_setContent (content : Content) (other : ContainerId) :
    (state.setContent id content).declaration? other = state.declaration? other :=
  declaration?_modifyContainer (by intro; rfl) other

theorem declaration?_insert (other : ContainerId) :
    (state.insert access placement slot).declaration? other = state.declaration? other :=
  (declaration?_congr containers_insert).trans (declaration?_setContent ..)

theorem declaration?_remove (other : ContainerId) :
    (state.remove access removed).2.declaration? other = state.declaration? other :=
  (declaration?_congr containers_remove).trans (declaration?_setContent ..)

theorem container?_insert (other : ContainerId) :
    (state.insert access placement slot).container? other =
      if other = access.container.id then
        (state.container? other).map fun container =>
          { container with
            content := (state.content access.container.id).insert placement slot }
      else state.container? other := by
  rw [container?, containers_insert]
  exact container?_modifyContainer ..

theorem container?_remove (other : ContainerId) :
    (state.remove access removed).2.container? other =
      if other = access.container.id then
        (state.container? other).map fun container =>
          { container with
            content := ((state.content access.container.id).remove removed.toList).2 }
      else state.container? other := by
  rw [container?, containers_remove]
  exact container?_modifyContainer ..

theorem Unmoved.of_changed {after : State} {changed : ContainerId}
    {change : Container → Container} (unmoved : state.Unmoved id)
    (same : after.container? id =
      if id = changed then (state.container? id).map change else state.container? id)
    (keeps : id = changed → ∀ container, (change container).movedAt = container.movedAt) :
    after.Unmoved id := by
  intro container found
  rw [same] at found
  split at found
  · rename_i here
    obtain ⟨old, lookup, rfl⟩ := Option.map_eq_some_iff.mp found
    exact (keeps here old).trans (unmoved old lookup)
  · exact unmoved container found

theorem Unmoved.insert (unmoved : state.Unmoved id) :
    (state.insert access placement slot).Unmoved id :=
  unmoved.of_changed (container?_insert id) fun _ _ => rfl

theorem Unmoved.remove (unmoved : state.Unmoved id) :
    (state.remove access removed).2.Unmoved id :=
  unmoved.of_changed (container?_remove id) fun _ _ => rfl

/-! ## Soundness -/

/-- Records whose positions alone change keep their numbers and scopes. -/
private theorem kept_of_map {records : List BorrowRecord} {actor : Option RecordId}
    {change : BorrowRecord → SlotSet} :
    ∀ record ∈ records, ∃ same ∈ records.map fun record =>
        if some record.id = actor then { record with slots := change record } else record,
      same.id = record.id ∧ same.scope = record.scope := by
  intro record member
  refine ⟨_, List.mem_map_of_mem member, ?_⟩
  split <;> exact ⟨rfl, rfl⟩

theorem Backs.length_eq {record : BorrowRecord} (backs : state.Backs record container)
    (onContainer : record.container = id) : container.length = (state.content id).length := by
  rw [content_eq (onContainer ▸ backs.found)]
  rfl

/-- A checked borrow covers positions of the content. -/
theorem Sound.inside (sound : state.Sound) {record : BorrowRecord}
    (member : record ∈ state.ledger.records) (onContainer : record.container = id)
    (ledgered : record.ledgered = true) :
    ∀ position ∈ record.slots, position < (state.content id).length := by
  obtain ⟨container, backs⟩ := sound.backed record member
  rw [← backs.length_eq onContainer]
  exact backs.inside ledgered

/-- Content may be stored that is long enough for the borrows of its container. -/
theorem Sound.setContent (sound : state.Sound) {content : Content}
    (inside : ∀ record ∈ state.ledger.records, record.container = id → record.ledgered = true →
      ∀ position ∈ record.slots, position < content.length) :
    (state.setContent id content).Sound := by
  apply sound.updateContainer
  · intro container
    exact ⟨rfl, rfl, rfl, rfl⟩
  · intro container record found member onContainer
    have backs := sound.backs member (onContainer ▸ found)
    exact ⟨backs.unmoved, inside record member onContainer⟩

/-- A view that grows by what is inserted stays inside the container. -/
theorem grow_inside {content : Content} {slots : SlotSet}
    (inside : ∀ position ∈ slots, position < content.length) :
    ∀ position ∈ placement.grow content.length slots,
      position < (content.insert placement slot).length := by
  intro position member
  cases placement with
  | head =>
      rw [Content.length_insert_head]
      rcases SlotSet.mem_insert.mp member with rfl | old
      · exact Nat.lt_succ_self _
      · exact Nat.lt_succ_of_lt (inside position old)
  | tail =>
      rw [Content.length_insert_tail]
      rcases SlotSet.mem_insert.mp member with rfl | shifted
      · exact Nat.succ_pos _
      · obtain ⟨positive, old⟩ := SlotSet.mem_shiftUp.mp shifted
        have below := inside _ old
        omega
  | replace other =>
      rw [Content.length_insert_replace]
      exact inside position member

theorem Sound.insert (sound : state.Sound)
    (acts : state.ledger.Acts access.record? access.container.id) :
    (state.insert access placement slot).Sound := by
  obtain ⟨ledger, wf, -, equal, records⟩ := insert_eq sound access placement slot
  have stored : (state.setContent access.container.id
      ((state.content access.container.id).insert placement slot)).Sound := by
    apply sound.setContent
    intro record member onContainer ledgered position inSlots
    exact Nat.lt_of_lt_of_le (sound.inside member onContainer ledgered position inSlots)
      (Content.length_le_insert ..)
  rw [equal]
  apply stored.setLedger wf
  · intro kept member
    rw [records] at member
    obtain ⟨record, old, rfl⟩ := List.mem_map.mp member
    obtain ⟨container, backs⟩ := stored.backed record old
    refine ⟨container, ?_⟩
    split
    · rename_i own
      have onContainer := acts record old own
      obtain ⟨before, oldBacks⟩ := sound.backed record old
      exact { backs with
        inside := by
          intro ledgered
          rw [backs.length_eq onContainer, content_setContent (onContainer ▸ oldBacks.found)]
          exact grow_inside (sound.inside old onContainer ledgered) }
    · exact backs
  · rw [records]
    exact kept_of_map

/-- What remains of a view stays inside what remains of the content. -/
theorem compact_inside {content : Content} {slots : SlotSet}
    (inside : ∀ position ∈ slots, position < content.length) :
    ∀ position ∈ slots.compact removed, position < (content.remove removed.toList).2.length := by
  intro position member
  obtain ⟨old, inSlots, kept, rfl⟩ := SlotSet.mem_compact.mp member
  have there := List.getElem?_eq_getElem (inside old inSlots)
  rw [← Content.getElem?_remove kept] at there
  exact (List.getElem?_eq_some_iff.mp there).1

/-- What lies below all that is removed stays inside what remains. -/
theorem below_inside {content : Content} {position : Nat} (inside : position < content.length)
    (under : ∀ gone ∈ removed, position < gone) :
    position < (content.remove removed.toList).2.length := by
  have there := List.getElem?_eq_getElem inside
  rw [← Content.getElem?_remove_of_lt under] at there
  exact (List.getElem?_eq_some_iff.mp there).1

theorem Sound.remove (sound : state.Sound)
    (above : ∀ record, state.ledger.Rival access.container.id access.record? record →
      ∀ position ∈ record.slots, ∀ gone ∈ removed, position < gone) :
    (state.remove access removed).2.Sound := by
  obtain ⟨ledger, wf, -, equal, records⟩ := remove_eq sound access removed
  have compacted : { state with ledger }.Sound := by
    apply sound.setLedger wf
    · intro kept member
      rw [records] at member
      obtain ⟨record, old, rfl⟩ := List.mem_map.mp member
      obtain ⟨container, backs⟩ := sound.backed record old
      refine ⟨container, ?_⟩
      split
      · exact { backs with
          inside := by
            intro ledgered position member
            obtain ⟨previous, inSlots, -, rfl⟩ := SlotSet.mem_compact.mp member
            exact Nat.lt_of_le_of_lt (Nat.sub_le ..) (backs.inside ledgered previous inSlots) }
      · exact backs
    · rw [records]
      exact kept_of_map
  rw [equal]
  apply compacted.setContent
  intro kept member
  change kept ∈ ledger.records at member
  rw [records] at member
  obtain ⟨record, old, rfl⟩ := List.mem_map.mp member
  split
  · intro onContainer ledgered
    exact compact_inside (sound.inside old onContainer ledgered)
  · rename_i other
    intro onContainer ledgered position inSlots
    exact below_inside (sound.inside old onContainer ledgered position inSlots)
      (above record ⟨old, onContainer, ledgered, other⟩ position inSlots)

/-- A borrow of a container in use may be recorded for the current scope. -/
theorem Sound.lend (sound : state.Sound) {region : Region}
    (found : state.container? region.container = some container)
    (usable : container.movedAt = none ∧ container.isDestroyed = false)
    (inside : ∀ position ∈ region.slots, position < container.length)
    (here : region.scope = state.scopes.current) :
    { state with
      ledger := (state.ledger.insert region container.mode.isLedgered).2 }.Sound := by
  apply sound.setLedger (Ledger.insert_wellFormed sound.ledger ..)
  · intro record member
    rw [Ledger.records_insert, List.mem_append, List.mem_singleton] at member
    rcases member with old | rfl
    · exact sound.backed record old
    · exact ⟨container, {
        found
        ledgered := rfl
        unmoved := usable.1
        undestroyed := usable.2
        inside := fun _ => inside
        opened := here ▸ sound.scopes.current_mem
        nested := fun opened => here ▸ sound.scopes.encloses_current opened }⟩
  · intro record member
    exact ⟨record, List.mem_append_left _ member, rfl, rfl⟩

theorem Sound.hold (sound : state.Sound) (record : RecordId) (holder : BindingId) :
    { state with ledger := state.ledger.setHolder record holder }.Sound := by
  apply sound.setLedger (Ledger.setHolder_wellFormed sound.ledger ..)
  · intro kept member
    obtain ⟨old, oldMember, rfl⟩ := Ledger.mem_records_modify member
    obtain ⟨container, backs⟩ := sound.backed old oldMember
    refine ⟨container, ?_⟩
    split
    · exact { backs with }
    · exact backs
  · intro old member
    refine ⟨_, List.mem_map_of_mem member, ?_⟩
    split <;> exact ⟨rfl, rfl⟩

theorem Sound.move (sound : state.Sound) (span : Span)
    (unborrowed : ∀ record ∈ state.ledger.records, record.container ≠ id) :
    (state.markMoved id span).Sound := by
  apply sound.updateContainer
  · intro container
    exact ⟨rfl, rfl, rfl, rfl⟩
  · intro container record _ member onContainer
    exact (unborrowed record member onContainer).elim

theorem Sound.release (sound : state.Sound) (id : ContainerId) (span : Span)
    (deferred : List ContainerId) :
    { state.modifyContainer id fun container => { container with liveness := .released span }
      with deferred }.Sound := by
  refine Sound.setDeferred (sound.modifyContainer ?_ ?_ ?_) deferred
  · intro container _
    exact ⟨rfl, rfl, rfl⟩
  · intro container record found member onContainer
    have backs := sound.backs member (onContainer ▸ found)
    exact ⟨backs.unmoved, rfl, backs.inside⟩
  · intro container _ destroyed
    contradiction

end State

/-- No change makes a state unsound. -/
theorem Change.sound {act : Act} {state after : State} (change : Change act state after)
    (sound : state.Sound) : after.Sound := by
  cases change with
  | declare declared => exact (State.register_grows declared).sound sound
  | bind grounds => exact (State.addBinding_grows grounds).sound sound
  | stand =>
      apply sound.modifyBinding
      · intro binding _
        exact ⟨rfl, rfl⟩
      · intro binding found opened
        exact sound.grounded found opened
  | capture found grounds =>
      apply sound.modifyBinding
      · intro binding lookup
        rw [Option.some.inj (lookup.symm.trans found)]
        exact ⟨rfl, rfl⟩
      · intro binding lookup _
        rw [Option.some.inj (lookup.symm.trans found)]
        exact grounds
  | insert actor acts spares => exact sound.insert (actor ▸ acts)
  | remove actor acts above => exact sound.remove (actor ▸ above)
  | lend lends found usable inside here apart => exact sound.lend found usable inside here
  | hold => exact sound.hold ..
  | move movable => exact sound.move _ movable.unborrowed
  | release => exact sound.release ..
  | enter => exact sound.enter ..
  | exit exits => exact (sound.exitScope? exits).1

theorem Changes.sound {act : Act} {state after : State} (changes : Changes act state after)
    (sound : state.Sound) : after.Sound := by
  induction changes with
  | refl => exact sound
  | tail _ change ih => exact change.sound ih

/-- What every change keeps is kept by changes made one after another. -/
theorem Changes.keeps {act : Act} {state after : State} {holds : State → Prop}
    (changes : Changes act state after) (sound : state.Sound)
    (kept : ∀ {state next : State}, state.Sound → Change act state next → holds state → holds next)
    (start : holds state) : holds after := by
  induction changes with
  | refl => exact start
  | tail earlier change ih => exact kept (Changes.sound earlier sound) change ih

/-! ## Borrows before and after -/

/-- An exit ends borrows and leaves the others as they are. -/
theorem State.records_exit {state : State} (sound : state.Sound) {span : Span} {closing : Closing}
    (exits : state.exitScope? span = some closing) :
    closing.state.ledger.nextId = state.ledger.nextId ∧
      ∀ record ∈ closing.state.ledger.records, record ∈ state.ledger.records := by
  obtain ⟨-, -, scope, scopes, -, ends⟩ := sound.exitScope? exits
  have ledger : closing.state.ledger = (state.ledger.releaseScope scope).2 := ends.ledger
  rw [ledger]
  exact ⟨Ledger.nextId_releaseScope .., fun record member =>
    ((Ledger.mem_records_releaseScope sound.ledger).mp member).1⟩

/-- Numbers of borrows are never given again. -/
theorem Change.nextId_le {act : Act} {state after : State} (change : Change act state after)
    (sound : state.Sound) : state.ledger.nextId ≤ after.ledger.nextId := by
  cases change with
  | declare declared => rw [(State.register_grows declared).ledger]
  | bind | stand | capture | hold | move | release | enter => exact Nat.le_refl _
  | insert =>
      obtain ⟨ledger, -, nextId, equal, -⟩ := State.insert_eq sound ..
      rw [equal]
      exact nextId.ge
  | remove =>
      obtain ⟨ledger, -, nextId, equal, -⟩ := State.remove_eq sound ..
      rw [equal]
      exact nextId.ge
  | lend => exact Nat.le_succ _
  | exit exits => exact (State.records_exit sound exits).1.ge

theorem Changes.nextId_le {act : Act} {state after : State} (changes : Changes act state after)
    (sound : state.Sound) : state.ledger.nextId ≤ after.ledger.nextId := by
  apply changes.keeps sound _ (Nat.le_refl state.ledger.nextId)
  intro middle next sound change below
  exact Nat.le_trans below (change.nextId_le sound)

end Custody
