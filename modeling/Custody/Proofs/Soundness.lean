import Custody.Proofs.Borrows
import Custody.Proofs.Nesting
import Custody.Verifier.State

/-!
# Sound states

What holds of the scopes, containers, bindings and borrows of a state that a verification can
reach.  Every entry of a table stands under its own number and every name leads to an entry of the
scope that declares it; every active borrow lies inside a container that still holds its data; and
every binding of an open scope refers to something that is still there.
-/

namespace Custody

/-- Whether the container was destroyed when its scope exited. -/
def Container.isDestroyed (container : Container) : Bool :=
  match container.liveness with
  | .destroyed _ => true
  | _ => false

namespace State

/-- What an active borrow rests on: a container that still holds its data, and a scope that is
open.  The scope of the container may have closed before the borrow was taken; as long as it is
open it encloses the scope of the borrow. -/
structure Backs (state : State) (record : BorrowRecord) (container : Container) : Prop where
  found : state.container? record.container = some container
  ledgered : record.ledgered = container.mode.isLedgered
  unmoved : container.movedAt = none
  undestroyed : container.isDestroyed = false
  inside : record.ledgered = true → ∀ position ∈ record.slots, position < container.length
  opened : record.scope ∈ state.scopes.path
  nested : container.scope ∈ state.scopes.path →
    state.scopes.Encloses container.scope record.scope

/-- What a referent that is used in a scope rests on. -/
def Grounds (state : State) (scope : ScopeId) : Referent → Prop
  | .direct id => ∃ container, state.container? id = some container ∧ container.isDestroyed = false
  | .view id => ∃ record ∈ state.ledger.records,
      record.id = id ∧ state.scopes.Encloses record.scope scope
  | .poisoned => True

/-- The tables of a state: numbers, and names by scope. -/
structure Indexed (state : State) : Prop where
  container_id : ∀ {id container}, state.container? id = some container → container.id = id
  container_scope : ∀ {id container}, state.container? id = some container →
    container.scope.index < state.scopes.scopes.length
  binding_id : ∀ {id binding}, state.binding? id = some binding → binding.id = id
  binding_scope : ∀ {id binding}, state.binding? id = some binding →
    binding.scope.index < state.scopes.scopes.length
  container_named : ∀ {id scope name container}, state.scopes.get? id = some scope →
    scope.containers.get? name = some container →
    ∃ found, state.container? container = some found ∧ found.scope = id
  container_declared : ∀ {id scope container}, state.scopes.get? id = some scope →
    container ∈ scope.declared →
    ∃ found, state.container? container = some found ∧ found.scope = id
  binding_named : ∀ {id scope name binding}, state.scopes.get? id = some scope →
    scope.bindings.get? name = some binding →
    ∃ found, state.binding? binding = some found ∧ found.scope = id

/-- What holds of every state that a verification can reach. -/
structure Sound (state : State) : Prop extends Indexed state where
  scopes : state.scopes.WellFormed
  ledger : state.ledger.WellFormed
  backed : ∀ record ∈ state.ledger.records, ∃ container, state.Backs record container
  destroyed : ∀ {id container}, state.container? id = some container →
    container.isDestroyed = true → container.scope ∉ state.scopes.path
  grounded : ∀ {id binding}, state.binding? id = some binding →
    binding.scope ∈ state.scopes.path → state.Grounds binding.scope binding.referent

/-- A borrow rests on the container that stands under its number. -/
theorem Sound.backs {state : State} (sound : state.Sound) {record : BorrowRecord}
    {container : Container} (member : record ∈ state.ledger.records)
    (found : state.container? record.container = some container) :
    state.Backs record container := by
  obtain ⟨there, backs⟩ := sound.backed record member
  rw [Option.some.inj (found.symm.trans backs.found)]
  exact backs

theorem initial_sound : ({} : State).Sound where
  container_id := by simp [container?]
  container_scope := by simp [container?]
  binding_id := by simp [binding?]
  binding_scope := by simp [binding?]
  container_named := by
    intro id scope name container found named
    rcases id with ⟨_ | index⟩ <;> simp [ScopeTree.get?, ScopeTree.initial] at found
    subst found
    simp [Table.get?] at named
  container_declared := by
    intro id scope container found declared
    rcases id with ⟨_ | index⟩ <;> simp [ScopeTree.get?, ScopeTree.initial] at found
    subst found
    simp at declared
  binding_named := by
    intro id scope name binding found named
    rcases id with ⟨_ | index⟩ <;> simp [ScopeTree.get?, ScopeTree.initial] at found
    subst found
    simp [Table.get?] at named
  scopes := ScopeTree.initial_wellFormed
  ledger := Ledger.empty_wellFormed
  backed := by simp
  destroyed := by simp [container?]
  grounded := by simp [binding?]

/-! ## Look-ups after a change -/

theorem container?_modifyContainer (state : State) (id other : ContainerId)
    (change : Container → Container) :
    (state.modifyContainer id change).container? other =
      if other = id then (state.container? other).map change else state.container? other := by
  rcases id with ⟨index⟩
  rcases other with ⟨place⟩
  simp only [container?, modifyContainer, List.getElem?_modify, ContainerId.mk.injEq]
  by_cases same : index = place
  · simp [same]
  · simp [same, Ne.symm same]

theorem binding?_modifyBinding (state : State) (id other : BindingId)
    (change : Binding → Binding) :
    (state.modifyBinding id change).binding? other =
      if other = id then (state.binding? other).map change else state.binding? other := by
  rcases id with ⟨index⟩
  rcases other with ⟨place⟩
  simp only [binding?, modifyBinding, List.getElem?_modify, BindingId.mk.injEq]
  by_cases same : index = place
  · simp [same]
  · simp [same, Ne.symm same]

/-- A container after one was changed: the changed one, or one that stays. -/
theorem container?_modifyContainer_eq_some {state : State} {id other : ContainerId}
    {change : Container → Container} {container : Container}
    (found : (state.modifyContainer id change).container? other = some container) :
    ∃ old, state.container? other = some old ∧
      container = if other = id then change old else old := by
  rw [container?_modifyContainer] at found
  split at found
  · rename_i same
    obtain ⟨old, lookup, rfl⟩ := Option.map_eq_some_iff.mp found
    exact ⟨old, lookup, by rw [if_pos same]⟩
  · rename_i different
    exact ⟨container, found, by rw [if_neg different]⟩

theorem container?_modifyContainer_of_eq_some {state : State} {id other : ContainerId}
    {change : Container → Container} {container : Container}
    (found : state.container? other = some container) :
    (state.modifyContainer id change).container? other =
      some (if other = id then change container else container) := by
  rw [container?_modifyContainer, found]
  split <;> rfl

end State

end Custody
