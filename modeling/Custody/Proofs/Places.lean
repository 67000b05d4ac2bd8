import Custody.Proofs.Transfers

/-!
# Places in a state

A state remembers where its containers, bindings and borrows come from, and where containers were
moved away or met their end.  An operation stores its own place and no other, so all that a state
remembers are places of operations that have been performed.
-/

namespace Custody

/-- The place of the operation that ended a life. -/
def Liveness.span? : Liveness → Option Span
  | .live => none
  | .destroyed span | .forgotten span | .released span => some span

/-- A container that remembers known places only. -/
structure Container.Placed (known : List Span) (container : Container) : Prop where
  span : container.span ∈ known
  moved : ∀ earlier, container.movedAt = some earlier → earlier ∈ known
  ended : ∀ earlier, container.liveness.span? = some earlier → earlier ∈ known

/-- A binding that remembers known places only. -/
structure Binding.Placed (known : List Span) (binding : Binding) : Prop where
  span : binding.span ∈ known
  captured : ∀ earlier, binding.capturedAt = some earlier → earlier ∈ known

/-- Borrows that were taken at known places. -/
def Ledger.Placed (known : List Span) (ledger : Ledger) : Prop :=
  ∀ record ∈ ledger.records, record.span ∈ known

/-- A state that remembers known places only. -/
structure State.Placed (known : List Span) (state : State) : Prop where
  containers : ∀ container ∈ state.containers, container.Placed known
  bindings : ∀ binding ∈ state.bindings, binding.Placed known
  ledger : state.ledger.Placed known

/-- What is reached comes from known places. -/
structure Access.Placed (known : List Span) (access : Access) : Prop where
  container : access.container.Placed known
  view : ∀ record, access.view = some record → record.span ∈ known

/-- What holds of all entries of a list, and of each of them once it is changed. -/
private theorem forall_mem_modify {α : Type} {holds : α → Prop} {values : List α} {index : Nat}
    {change : α → α} (all : ∀ value ∈ values, holds value)
    (changed : ∀ value, holds value → holds (change value)) :
    ∀ value ∈ values.modify index change, holds value := by
  intro value member
  obtain ⟨place, found⟩ := List.mem_iff_getElem?.mp member
  rw [List.getElem?_modify] at found
  obtain ⟨old, lookup, rfl⟩ := Option.map_eq_some_iff.mp found
  have before := all old (List.mem_of_getElem? lookup)
  split
  · exact changed old before
  · exact before

variable {known wider : List Span} {span : Span}

/-! ## Containers and bindings -/

namespace Container

variable {container : Container}

theorem Placed.mono (placed : container.Placed known) (subset : known ⊆ wider) :
    container.Placed wider where
  span := subset placed.span
  moved := fun earlier moved => subset (placed.moved earlier moved)
  ended := fun earlier ended => subset (placed.ended earlier ended)

theorem Placed.markMoved (placed : container.Placed known) (here : span ∈ known) :
    (container.markMoved span).Placed known where
  span := placed.span
  moved := fun _ moved => Option.some.inj moved ▸ here
  ended := placed.ended

end Container

theorem Binding.Placed.mono {binding : Binding} (placed : binding.Placed known)
    (subset : known ⊆ wider) : binding.Placed wider where
  span := subset placed.span
  captured := fun earlier captured => subset (placed.captured earlier captured)

/-- The operation that gave a binding its referent has a known place. -/
theorem Binding.Placed.origin {binding : Binding} (placed : binding.Placed known) :
    binding.origin ∈ known := by
  rw [Binding.origin]
  cases captured : binding.capturedAt with
  | none => exact placed.span
  | some earlier => exact placed.captured earlier captured

/-! ## Borrows -/

namespace Ledger

variable {ledger : Ledger}

theorem Placed.modify (placed : ledger.Placed known) (id : RecordId)
    (change : BorrowRecord → BorrowRecord) (keeps : ∀ record, (change record).span = record.span) :
    (ledger.modify id change).Placed known := by
  intro record member
  obtain ⟨old, oldMember, rfl⟩ := mem_records_modify member
  split
  · rw [keeps]
    exact placed old oldMember
  · exact placed old oldMember

theorem Placed.rebase (placed : ledger.Placed known) (id : RecordId) (slots : SlotSet) :
    (ledger.rebase id slots).Placed known := by
  have moved := placed.modify id (fun record => { record with slots }) fun _ => rfl
  intro record member
  rw [records_rebase] at member
  exact moved record member

theorem Placed.insert (placed : ledger.Placed known) {region : Region} (here : region.span ∈ known)
    (ledgered : Bool) : (ledger.insert region ledgered).2.Placed known := by
  intro record member
  rw [records_insert, List.mem_append, List.mem_singleton] at member
  rcases member with old | rfl
  · exact placed record old
  · exact here

theorem Placed.releaseScope (placed : ledger.Placed known) (scope : ScopeId) :
    (ledger.releaseScope scope).2.Placed known := by
  intro record member
  rw [Ledger.releaseScope, records_releaseAll] at member
  exact placed record (List.mem_filter.mp member).1

end Ledger

/-! ## States -/

namespace State

variable {state after : State}

theorem initial_placed : ({} : State).Placed known :=
  ⟨by simp, by simp, by simp [Ledger.Placed]⟩

theorem Placed.mono (placed : state.Placed known) (subset : known ⊆ wider) :
    state.Placed wider where
  containers := fun container member => (placed.containers container member).mono subset
  bindings := fun binding member => (placed.bindings binding member).mono subset
  ledger := fun record member => subset (placed.ledger record member)

theorem Placed.modifyContainer (placed : state.Placed known) (id : ContainerId)
    {change : Container → Container}
    (changed : ∀ container, container.Placed known → (change container).Placed known) :
    (state.modifyContainer id change).Placed known :=
  { placed with containers := forall_mem_modify placed.containers changed }

theorem Placed.modifyBinding (placed : state.Placed known) (id : BindingId)
    {change : Binding → Binding}
    (changed : ∀ binding, binding.Placed known → (change binding).Placed known) :
    (state.modifyBinding id change).Placed known :=
  { placed with bindings := forall_mem_modify placed.bindings changed }

theorem Placed.setLedger (placed : state.Placed known) {ledger : Ledger}
    (ledgerPlaced : ledger.Placed known) : { state with ledger }.Placed known :=
  { placed with ledger := ledgerPlaced }

theorem Placed.setContent (placed : state.Placed known) (id : ContainerId) (content : Content) :
    (state.setContent id content).Placed known :=
  placed.modifyContainer id fun _ placed => { placed with }

theorem Placed.markMoved (placed : state.Placed known) (here : span ∈ known) (id : ContainerId) :
    (state.markMoved id span).Placed known :=
  placed.modifyContainer id fun _ placed => placed.markMoved here

/-- A container may meet its end at a known place. -/
theorem Placed.setLiveness (placed : state.Placed known) (here : span ∈ known) (id : ContainerId)
    (liveness : Liveness) (now : liveness.span? = some span) :
    (state.modifyContainer id fun container => { container with liveness }).Placed known := by
  apply placed.modifyContainer
  intro container placed
  refine { placed with ended := ?_ }
  intro earlier ended
  rw [← Option.some.inj (now.symm.trans ended)]
  exact here

theorem Placed.insert (placed : state.Placed known) (access : Access) (placement : Placement)
    (slot : Slot) : (state.insert access placement slot).Placed known := by
  have stored := placed.setContent access.container.id
    ((state.content access.container.id).insert placement slot)
  unfold State.insert
  split
  · exact stored
  · split
    · exact stored.setLedger (stored.ledger.rebase _ _)
    · exact stored.setLedger (stored.ledger.rebase _ _)
    · exact stored

theorem Placed.remove (placed : state.Placed known) (access : Access) (removed : SlotSet) :
    (state.remove access removed).2.Placed known := by
  have stored := placed.setContent access.container.id
    ((state.content access.container.id).remove removed.toList).2
  simp only [State.remove]
  split
  · exact stored.setLedger (stored.ledger.rebase _ _)
  · exact stored

theorem Placed.insertAll (placed : state.Placed known) (access : Access)
    (planned : List (Placement × Slot)) : (state.insertAll access planned).Placed known := by
  induction planned generalizing state with
  | nil => exact placed
  | cons first rest ih =>
      rw [insertAll_cons]
      exact ih (placed.insert access _ first.2)

theorem Placed.register (placed : state.Placed known) (here : span ∈ known) {name : String}
    {element : Element} {key : Option Element} {mode : Mode} {container : Container}
    (declared : state.register name element key mode span = .ok (container, after)) :
    after.Placed known := by
  obtain ⟨new, rfl⟩ := register_eq_ok declared
  refine { placed with containers := ?_ }
  intro other member
  rcases List.mem_append.mp member with old | last
  · exact placed.containers other old
  · rw [List.mem_singleton.mp last, new]
    exact ⟨here, nofun, nofun⟩

theorem Placed.addBinding (placed : state.Placed known) (here : span ∈ known) (name : String)
    (referent : Referent) (perspective : Perspective) :
    (state.addBinding name referent perspective span).2.Placed known := by
  refine { placed with bindings := ?_ }
  intro binding member
  rcases List.mem_append.mp member with old | last
  · exact placed.bindings binding old
  · rw [List.mem_singleton.mp last]
    exact ⟨here, nofun⟩

theorem Placed.addBorrow (placed : state.Placed known) {container : Container} {region : Region}
    {except : Option RecordId} {attempt : Attempt} {result : RecordId × State}
    (here : region.span ∈ known)
    (added : state.addBorrow container region except attempt span = .ok result) :
    result.2.Placed known := by
  unfold State.addBorrow at added
  split at added
  · simp only [Check.bind_eq_ok, Check.mapError_eq_ok, Check.pure_eq_ok] at added
    obtain ⟨lent, borrowed, rfl⟩ := added
    rw [(Ledger.borrow_eq_ok borrowed).1]
    exact placed.setLedger (placed.ledger.insert here true)
  · rw [← Except.ok.inj added]
    exact placed.setLedger (placed.ledger.insert here false)

theorem Placed.commitTransfer (placed : state.Placed known) (here : span ∈ known)
    {transfer : Transfer} {result : Option RecordId × State}
    (carriedOut : state.commitTransfer transfer span = .ok result) : result.2.Placed known := by
  unfold State.commitTransfer at carriedOut
  split at carriedOut
  · simp only [commitReference, Check.bind_eq_ok, Check.pure_eq_ok, Check.mapError_eq_ok]
      at carriedOut
    obtain ⟨_, ⟨lent, added, rfl⟩, rfl⟩ := carriedOut
    exact (Placed.addBorrow placed here added).insertAll ..
  · split at carriedOut
    · rw [← Except.ok.inj carriedOut]
      exact (placed.markMoved here _).insertAll ..
    · rw [← Except.ok.inj carriedOut]
      exact (placed.remove ..).insertAll ..

theorem Placed.moveAll (placed : state.Placed known) (here : span ∈ known)
    (moved : List ContainerId) :
    (moved.foldl (fun state id => state.markMoved id span) state).Placed known := by
  induction moved generalizing state with
  | nil => exact placed
  | cons first rest ih => exact ih (placed.markMoved here first)

/-- What a binding reaches comes from known places. -/
theorem Placed.accessOf? (placed : state.Placed known) {binding : Binding} {access : Access}
    (found : state.accessOf? binding = some access) : access.Placed known := by
  unfold State.accessOf? at found
  split at found
  · obtain ⟨container, lookup, rfl⟩ := Option.map_eq_some_iff.mp found
    exact ⟨placed.containers container (List.mem_of_getElem? lookup), nofun⟩
  · obtain ⟨record, active, found⟩ := Option.bind_eq_some_iff.mp found
    obtain ⟨container, lookup, rfl⟩ := Option.map_eq_some_iff.mp found
    refine ⟨placed.containers container (List.mem_of_getElem? lookup), ?_⟩
    intro other same
    rw [← Option.some.inj same]
    exact placed.ledger record (Ledger.mem_of_get? active).1
  · contradiction

theorem Placed.access (placed : state.Placed known) {name : String} {access : Access}
    (found : state.access name span = .ok (some access)) : access.Placed known := by
  simp only [State.access, Check.bind_eq_ok, Check.pure_eq_ok] at found
  obtain ⟨binding, -, reached⟩ := found
  exact placed.accessOf? reached

theorem Placed.lookupBinding (placed : state.Placed known) {name : String} {binding : Binding}
    (found : state.lookupBinding name span = .ok binding) : binding.Placed known := by
  obtain ⟨id, -, stored⟩ := Option.bind_eq_some_iff.mp (lookupBinding_eq_ok_iff.mp found)
  exact placed.bindings binding (List.mem_of_getElem? stored)

end State

end Custody
