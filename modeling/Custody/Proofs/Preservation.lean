import Custody.Proofs.Soundness

/-!
# Changes that keep a state sound

One lemma for each way in which operations change a state: a container, a binding or the borrows
are changed, a container or a binding is added, a scope is opened.  The exit of a scope has a
module of its own.
-/

namespace Custody.State

variable {state : State}

/-- Referents stay grounded as long as no container is destroyed and no borrow ends. -/
theorem Grounds.mono {after : State} {scope : ScopeId} {referent : Referent}
    (grounds : state.Grounds scope referent)
    (containers : ∀ {id container}, state.container? id = some container →
      container.isDestroyed = false →
      ∃ found, after.container? id = some found ∧ found.isDestroyed = false)
    (records : ∀ record ∈ state.ledger.records, ∃ kept ∈ after.ledger.records,
      kept.id = record.id ∧ kept.scope = record.scope)
    (encloses : ∀ {outer}, state.scopes.Encloses outer scope →
      after.scopes.Encloses outer scope) : after.Grounds scope referent := by
  cases referent with
  | direct id =>
      obtain ⟨container, found, live⟩ := grounds
      exact containers found live
  | view id =>
      obtain ⟨record, member, sameId, enclosing⟩ := grounds
      obtain ⟨kept, keptMember, keptId, keptScope⟩ := records record member
      exact ⟨kept, keptMember, keptId.trans sameId, keptScope ▸ encloses enclosing⟩
  | poisoned => trivial

/-- A container may be changed in all but its number, scope and mode, as long as it keeps its data
and its length while it is borrowed, and is destroyed only when nothing leads to it any more. -/
theorem Sound.modifyContainer (sound : state.Sound) {id : ContainerId}
    {change : Container → Container}
    (keeps : ∀ container, state.container? id = some container →
      (change container).id = container.id ∧ (change container).scope = container.scope ∧
        (change container).mode = container.mode)
    (holds : ∀ container record, state.container? id = some container →
      record ∈ state.ledger.records → record.container = id →
      (change container).movedAt = none ∧ (change container).isDestroyed = false ∧
        (record.ledgered = true → ∀ position ∈ record.slots,
          position < (change container).length))
    (destroys : ∀ container, state.container? id = some container →
      (change container).isDestroyed = true → container.scope ∉ state.scopes.path ∧
        ∀ {other binding}, state.binding? other = some binding →
          binding.scope ∈ state.scopes.path → binding.referent ≠ .direct id) :
    (state.modifyContainer id change).Sound := by
  have before : ∀ {other container},
      (state.modifyContainer id change).container? other = some container →
      ∃ old, state.container? other = some old ∧ container.id = old.id ∧
        container.scope = old.scope := by
    intro other container found
    obtain ⟨old, lookup, rfl⟩ := container?_modifyContainer_eq_some found
    refine ⟨old, lookup, ?_⟩
    split
    · rename_i same
      subst same
      obtain ⟨sameId, sameScope, -⟩ := keeps old lookup
      exact ⟨sameId, sameScope⟩
    · exact ⟨rfl, rfl⟩
  have after : ∀ {other container}, state.container? other = some container →
      ∃ new, (state.modifyContainer id change).container? other = some new ∧
        new.scope = container.scope := by
    intro other container found
    refine ⟨_, container?_modifyContainer_of_eq_some found, ?_⟩
    split
    · rename_i same
      subst same
      exact (keeps container found).2.1
    · rfl
  constructor
  case toIndexed =>
    constructor
    case container_id =>
      intro other container found
      obtain ⟨old, lookup, sameId, -⟩ := before found
      exact sameId.trans (sound.container_id lookup)
    case container_scope =>
      intro other container found
      obtain ⟨old, lookup, -, sameScope⟩ := before found
      rw [sameScope]
      exact sound.container_scope lookup
    case binding_id => exact sound.binding_id
    case binding_scope => exact sound.binding_scope
    case container_named =>
      intro scopeId scope name container found named
      obtain ⟨old, lookup, inScope⟩ := sound.container_named found named
      obtain ⟨new, newLookup, sameScope⟩ := after lookup
      exact ⟨new, newLookup, sameScope.trans inScope⟩
    case container_declared =>
      intro scopeId scope container found declared
      obtain ⟨old, lookup, inScope⟩ := sound.container_declared found declared
      obtain ⟨new, newLookup, sameScope⟩ := after lookup
      exact ⟨new, newLookup, sameScope.trans inScope⟩
    case binding_named => exact sound.binding_named
  case scopes => exact sound.scopes
  case ledger => exact sound.ledger
  case backed =>
    intro record member
    obtain ⟨container, backs⟩ := sound.backed record member
    have found : (state.modifyContainer id change).container? record.container = some _ :=
      container?_modifyContainer_of_eq_some backs.found
    by_cases same : record.container = id
    · rw [if_pos same] at found
      have lookup : state.container? id = some container := same ▸ backs.found
      obtain ⟨-, sameScope, sameMode⟩ := keeps container lookup
      obtain ⟨unmoved, undestroyed, inside⟩ := holds container record lookup member same
      exact ⟨change container, {
        found
        ledgered := backs.ledgered.trans (by rw [sameMode])
        unmoved
        undestroyed
        inside
        opened := backs.opened
        nested := by rw [sameScope]; exact backs.nested }⟩
    · rw [if_neg same] at found
      exact ⟨container, { backs with found }⟩
  case destroyed =>
    intro other container found destroyed
    obtain ⟨old, lookup, rfl⟩ := container?_modifyContainer_eq_some found
    by_cases same : other = id
    · rw [if_pos same] at destroyed ⊢
      subst same
      rw [(keeps old lookup).2.1]
      exact (destroys old lookup destroyed).1
    · rw [if_neg same] at destroyed ⊢
      exact sound.destroyed lookup destroyed
  case grounded =>
    intro other binding found opened
    have grounds := sound.grounded found opened
    cases referent : binding.referent with
    | direct container =>
        rw [referent] at grounds
        obtain ⟨old, lookup, live⟩ := grounds
        refine ⟨_, container?_modifyContainer_of_eq_some lookup, ?_⟩
        split
        · rename_i same
          subst same
          by_contra destroyed
          rw [Bool.not_eq_false] at destroyed
          exact (destroys old lookup destroyed).2 found opened referent
        · exact live
    | view record =>
        rw [referent] at grounds
        exact grounds
    | poisoned => trivial

/-- A container whose end is not changed keeps its data and its length while it is borrowed. -/
theorem Sound.updateContainer (sound : state.Sound) {id : ContainerId}
    {change : Container → Container}
    (keeps : ∀ container, (change container).id = container.id ∧
      (change container).scope = container.scope ∧ (change container).mode = container.mode ∧
      (change container).isDestroyed = container.isDestroyed)
    (holds : ∀ container record, state.container? id = some container →
      record ∈ state.ledger.records → record.container = id →
      (change container).movedAt = none ∧ (record.ledgered = true →
        ∀ position ∈ record.slots, position < (change container).length)) :
    (state.modifyContainer id change).Sound := by
  apply sound.modifyContainer
  · intro container _
    obtain ⟨sameId, sameScope, sameMode, -⟩ := keeps container
    exact ⟨sameId, sameScope, sameMode⟩
  · intro container record found member onContainer
    obtain ⟨unmoved, inside⟩ := holds container record found member onContainer
    refine ⟨unmoved, ?_, inside⟩
    rw [(keeps container).2.2.2]
    exact (sound.backs member (onContainer ▸ found)).undestroyed
  · intro container found destroyed
    rw [(keeps container).2.2.2] at destroyed
    refine ⟨sound.destroyed found destroyed, ?_⟩
    intro other binding lookup opened referent
    have grounds := sound.grounded lookup opened
    rw [referent] at grounds
    obtain ⟨there, thereFound, live⟩ := grounds
    have same : there = container := Option.some.inj (thereFound.symm.trans found)
    rw [same, destroyed] at live
    contradiction

/-- A binding may be changed in all but its number and scope, as long as what it refers to is
there. -/
theorem Sound.modifyBinding (sound : state.Sound) {id : BindingId} {change : Binding → Binding}
    (keeps : ∀ binding, state.binding? id = some binding →
      (change binding).id = binding.id ∧ (change binding).scope = binding.scope)
    (grounds : ∀ binding, state.binding? id = some binding →
      binding.scope ∈ state.scopes.path →
      state.Grounds binding.scope (change binding).referent) :
    (state.modifyBinding id change).Sound := by
  have before : ∀ {other binding},
      (state.modifyBinding id change).binding? other = some binding →
      ∃ old, state.binding? other = some old ∧ binding.id = old.id ∧ binding.scope = old.scope ∧
        (old.scope ∈ state.scopes.path → state.Grounds old.scope binding.referent) := by
    intro other binding found
    rw [binding?_modifyBinding] at found
    split at found
    · rename_i same
      subst same
      obtain ⟨old, lookup, rfl⟩ := Option.map_eq_some_iff.mp found
      obtain ⟨sameId, sameScope⟩ := keeps old lookup
      exact ⟨old, lookup, sameId, sameScope, grounds old lookup⟩
    · exact ⟨binding, found, rfl, rfl, sound.grounded found⟩
  constructor
  case toIndexed =>
    constructor
    case container_id => exact sound.container_id
    case container_scope => exact sound.container_scope
    case binding_id =>
      intro other binding found
      obtain ⟨old, lookup, sameId, -, -⟩ := before found
      exact sameId.trans (sound.binding_id lookup)
    case binding_scope =>
      intro other binding found
      obtain ⟨old, lookup, -, sameScope, -⟩ := before found
      rw [sameScope]
      exact sound.binding_scope lookup
    case container_named => exact sound.container_named
    case container_declared => exact sound.container_declared
    case binding_named =>
      intro scopeId scope name binding found named
      obtain ⟨old, lookup, inScope⟩ := sound.binding_named found named
      rw [binding?_modifyBinding]
      split
      · rename_i same
        subst same
        exact ⟨change old, by rw [lookup]; rfl, (keeps old lookup).2.trans inScope⟩
      · exact ⟨old, lookup, inScope⟩
  case scopes => exact sound.scopes
  case ledger => exact sound.ledger
  case backed =>
    intro record member
    obtain ⟨container, backs⟩ := sound.backed record member
    exact ⟨container, { backs with }⟩
  case destroyed => exact sound.destroyed
  case grounded =>
    intro other binding found opened
    obtain ⟨old, lookup, -, sameScope, grounded⟩ := before found
    rw [sameScope] at opened ⊢
    exact grounded opened

/-- Borrows may be added and changed, as long as each of them rests on its container. -/
theorem Sound.setLedger (sound : state.Sound) {ledger : Ledger} (wf : ledger.WellFormed)
    (backed : ∀ record ∈ ledger.records, ∃ container, state.Backs record container)
    (kept : ∀ record ∈ state.ledger.records, ∃ same ∈ ledger.records,
      same.id = record.id ∧ same.scope = record.scope) :
    { state with ledger }.Sound where
  toIndexed := { sound.toIndexed with }
  scopes := sound.scopes
  ledger := wf
  backed := by
    intro record member
    obtain ⟨container, backs⟩ := backed record member
    exact ⟨container, { backs with }⟩
  destroyed := sound.destroyed
  grounded := by
    intro id binding found opened
    apply (sound.grounded found opened).mono
    · intro container old lookup live
      exact ⟨old, lookup, live⟩
    · exact kept
    · intro outer enclosing
      exact enclosing

/-- The list of deferred containers carries no obligation. -/
theorem Sound.setDeferred (sound : state.Sound) (deferred : List ContainerId) :
    { state with deferred }.Sound where
  toIndexed := { sound.toIndexed with }
  scopes := sound.scopes
  ledger := sound.ledger
  backed := by
    intro record member
    obtain ⟨container, backs⟩ := sound.backed record member
    exact ⟨container, { backs with }⟩
  destroyed := sound.destroyed
  grounded := sound.grounded

/-! ## New containers, bindings and scopes -/

theorem container?_lt {id : ContainerId} {container : Container}
    (found : state.container? id = some container) : id.index < state.containers.length :=
  (List.getElem?_eq_some_iff.mp found).1

theorem binding?_lt {id : BindingId} {binding : Binding}
    (found : state.binding? id = some binding) : id.index < state.bindings.length :=
  (List.getElem?_eq_some_iff.mp found).1

theorem getElem?_concat_eq_some {α : Type} {values : List α} {value found : α} {index : Nat}
    (lookup : (values ++ [value])[index]? = some found) :
    values[index]? = some found ∨ index = values.length ∧ found = value := by
  rw [List.getElem?_append] at lookup
  split at lookup
  · exact .inl lookup
  · rename_i outside
    obtain ⟨bound, last⟩ := List.getElem?_eq_some_iff.mp lookup
    simp only [List.length_singleton, Nat.lt_one_iff] at bound
    refine .inr ⟨by omega, ?_⟩
    simpa [bound] using last.symm

/-- A state with more entries in the current scope: what was there stays, and what is new is in
place. -/
structure Grows (state after : State) : Prop where
  path : after.scopes.path = state.scopes.path
  parent : ∀ id, after.scopes.parent? id = state.scopes.parent? id
  isOpen : ∀ id, after.scopes.isOpen id = state.scopes.isOpen id
  size : after.scopes.scopes.length = state.scopes.scopes.length
  ledger : after.ledger = state.ledger
  container_kept : ∀ {id container}, state.container? id = some container →
    after.container? id = some container
  container_new : ∀ {id container}, after.container? id = some container →
    state.container? id = some container ∨ container.id = id ∧
      container.scope = state.scopes.current ∧ container.isDestroyed = false
  binding_kept : ∀ {id binding}, state.binding? id = some binding →
    after.binding? id = some binding
  binding_new : ∀ {id binding}, after.binding? id = some binding →
    state.binding? id = some binding ∨ binding.id = id ∧
      binding.scope = state.scopes.current ∧ state.Grounds binding.scope binding.referent
  container_named : ∀ {id scope name container}, after.scopes.get? id = some scope →
    scope.containers.get? name = some container →
    (∃ old, state.scopes.get? id = some old ∧ old.containers.get? name = some container) ∨
      ∃ found, after.container? container = some found ∧ found.scope = id
  container_declared : ∀ {id scope container}, after.scopes.get? id = some scope →
    container ∈ scope.declared →
    (∃ old, state.scopes.get? id = some old ∧ container ∈ old.declared) ∨
      ∃ found, after.container? container = some found ∧ found.scope = id
  binding_named : ∀ {id scope name binding}, after.scopes.get? id = some scope →
    scope.bindings.get? name = some binding →
    (∃ old, state.scopes.get? id = some old ∧ old.bindings.get? name = some binding) ∨
      ∃ found, after.binding? binding = some found ∧ found.scope = id

theorem Grows.sound {after : State} (grows : state.Grows after) (sound : state.Sound) :
    after.Sound := by
  have encloses := ScopeTree.encloses_congr grows.parent
  have current_lt := ScopeTree.lt_of_mem_path sound.scopes sound.scopes.current_mem
  have grounds : ∀ {scope referent}, state.Grounds scope referent →
      after.Grounds scope referent := by
    intro scope referent grounds
    apply grounds.mono
    · intro id container found live
      exact ⟨container, grows.container_kept found, live⟩
    · intro record member
      exact ⟨record, grows.ledger ▸ member, rfl, rfl⟩
    · intro outer enclosing
      exact (encloses outer scope).mpr enclosing
  constructor
  case toIndexed =>
    constructor
    case container_id =>
      intro id container found
      rcases grows.container_new found with old | ⟨sameId, -, -⟩
      · exact sound.container_id old
      · exact sameId
    case container_scope =>
      intro id container found
      rw [grows.size]
      rcases grows.container_new found with old | ⟨-, here, -⟩
      · exact sound.container_scope old
      · rw [here]
        exact current_lt
    case binding_id =>
      intro id binding found
      rcases grows.binding_new found with old | ⟨sameId, -, -⟩
      · exact sound.binding_id old
      · exact sameId
    case binding_scope =>
      intro id binding found
      rw [grows.size]
      rcases grows.binding_new found with old | ⟨-, here, -⟩
      · exact sound.binding_scope old
      · rw [here]
        exact current_lt
    case container_named =>
      intro id scope name container found named
      rcases grows.container_named found named with ⟨old, lookup, oldNamed⟩ | new
      · obtain ⟨there, thereFound, inScope⟩ := sound.container_named lookup oldNamed
        exact ⟨there, grows.container_kept thereFound, inScope⟩
      · exact new
    case container_declared =>
      intro id scope container found declared
      rcases grows.container_declared found declared with ⟨old, lookup, oldDeclared⟩ | new
      · obtain ⟨there, thereFound, inScope⟩ := sound.container_declared lookup oldDeclared
        exact ⟨there, grows.container_kept thereFound, inScope⟩
      · exact new
    case binding_named =>
      intro id scope name binding found named
      rcases grows.binding_named found named with ⟨old, lookup, oldNamed⟩ | new
      · obtain ⟨there, thereFound, inScope⟩ := sound.binding_named lookup oldNamed
        exact ⟨there, grows.binding_kept thereFound, inScope⟩
      · exact new
  case scopes => exact sound.scopes.congr grows.path grows.parent grows.isOpen
  case ledger => exact grows.ledger ▸ sound.ledger
  case backed =>
    intro record member
    obtain ⟨container, backs⟩ := sound.backed record (grows.ledger ▸ member)
    exact ⟨container, { backs with
      found := grows.container_kept backs.found
      opened := grows.path ▸ backs.opened
      nested := fun opened => (encloses _ _).mpr (backs.nested (grows.path ▸ opened)) }⟩
  case destroyed =>
    intro id container found destroyed
    rcases grows.container_new found with old | ⟨-, -, live⟩
    · rw [grows.path]
      exact sound.destroyed old destroyed
    · rw [live] at destroyed
      contradiction
  case grounded =>
    intro id binding found opened
    rcases grows.binding_new found with old | ⟨-, -, new⟩
    · exact grounds (sound.grounded old (grows.path ▸ opened))
    · exact grounds new

/-- Scopes after the tables of the current one were changed. -/
private theorem get?_modify_eq_some {tree : ScopeTree} {id other : ScopeId} {scope : Scope}
    {change : Scope → Scope} (found : (tree.modify id change).get? other = some scope) :
    ∃ old, tree.get? other = some old ∧ scope = if other = id then change old else old := by
  rw [ScopeTree.get?_modify] at found
  split at found
  · rename_i same
    obtain ⟨old, lookup, rfl⟩ := Option.map_eq_some_iff.mp found
    exact ⟨old, lookup, by rw [if_pos same]⟩
  · rename_i different
    exact ⟨scope, found, by rw [if_neg different]⟩

/-- A declared container is new, live and empty, and stands in the current scope. -/
theorem register_eq_ok {name : String} {element : Element} {key : Option Element} {mode : Mode}
    {span : Span} {container : Container} {after : State}
    (accepted : state.register name element key mode span = .ok (container, after)) :
    container =
        { id := ⟨state.containers.length⟩
          name
          element
          key
          mode
          scope := state.scopes.current
          span } ∧
      after = { state with
        scopes := state.scopes.modify state.scopes.current fun scope =>
          { scope with
            containers := scope.containers.insert name container.id
            declared := scope.declared ++ [container.id] }
        containers := state.containers ++ [container] } := by
  simp only [register] at accepted
  split at accepted
  · split at accepted
    · simp only [Except.ok.injEq, Prod.mk.injEq] at accepted
      obtain ⟨rfl, rfl⟩ := accepted
      exact ⟨rfl, rfl⟩
    · simp at accepted
  · simp only [Except.ok.injEq, Prod.mk.injEq] at accepted
    obtain ⟨rfl, rfl⟩ := accepted
    exact ⟨rfl, rfl⟩

theorem register_grows {name : String} {element : Element} {key : Option Element} {mode : Mode}
    {span : Span} {container : Container} {after : State}
    (accepted : state.register name element key mode span = .ok (container, after)) :
    state.Grows after := by
  obtain ⟨new, grown⟩ := register_eq_ok accepted
  subst grown
  have newId : container.id = ⟨state.containers.length⟩ := by rw [new]
  have newScope : container.scope = state.scopes.current := by rw [new]
  have added : (state.containers ++ [container])[container.id.index]? = some container := by
    simp [newId]
  constructor
  case path => rfl
  case parent => exact ScopeTree.parent?_modify fun _ => rfl
  case isOpen => exact ScopeTree.isOpen_modify fun _ => rfl
  case size => simp [ScopeTree.modify]
  case ledger => rfl
  case container_kept =>
    intro id found lookup
    exact (List.getElem?_append_left (container?_lt lookup)).trans lookup
  case container_new =>
    intro id found lookup
    rcases getElem?_concat_eq_some lookup with old | ⟨index, rfl⟩
    · exact .inl old
    · refine .inr ⟨?_, newScope, by rw [new]; rfl⟩
      rw [newId, ← index]
  case binding_kept =>
    intro id binding lookup
    exact lookup
  case binding_new =>
    intro id binding lookup
    exact .inl lookup
  case container_named =>
    intro id scope other found lookup named
    obtain ⟨old, oldLookup, rfl⟩ := get?_modify_eq_some lookup
    split at named
    · rename_i here
      simp only [Table.get?_insert] at named
      split at named
      · simp only [Option.some.injEq] at named
        subst named
        exact .inr ⟨container, added, newScope.trans here.symm⟩
      · exact .inl ⟨old, oldLookup, named⟩
    · exact .inl ⟨old, oldLookup, named⟩
  case container_declared =>
    intro id scope found lookup declared
    obtain ⟨old, oldLookup, rfl⟩ := get?_modify_eq_some lookup
    split at declared
    · rename_i here
      rcases List.mem_append.mp declared with earlier | last
      · exact .inl ⟨old, oldLookup, earlier⟩
      · rw [List.mem_singleton.mp last]
        exact .inr ⟨container, added, newScope.trans here.symm⟩
    · exact .inl ⟨old, oldLookup, declared⟩
  case binding_named =>
    intro id scope other found lookup named
    obtain ⟨old, oldLookup, rfl⟩ := get?_modify_eq_some lookup
    split at named <;> exact .inl ⟨old, oldLookup, named⟩

theorem addBinding_grows {name : String} {referent : Referent} {perspective : Perspective}
    {span : Span} (grounds : state.Grounds state.scopes.current referent) :
    state.Grows (state.addBinding name referent perspective span).2 := by
  constructor
  case path => rfl
  case parent => exact ScopeTree.parent?_modify fun _ => rfl
  case isOpen => exact ScopeTree.isOpen_modify fun _ => rfl
  case size => simp [addBinding, ScopeTree.modify]
  case ledger => rfl
  case container_kept =>
    intro id container lookup
    exact lookup
  case container_new =>
    intro id container lookup
    exact .inl lookup
  case binding_kept =>
    intro id binding lookup
    exact (List.getElem?_append_left (binding?_lt lookup)).trans lookup
  case binding_new =>
    intro id binding lookup
    rcases getElem?_concat_eq_some lookup with old | ⟨index, rfl⟩
    · exact .inl old
    · exact .inr ⟨by rw [← index], rfl, grounds⟩
  case container_named =>
    intro id scope other found lookup named
    obtain ⟨old, oldLookup, rfl⟩ := get?_modify_eq_some lookup
    split at named <;> exact .inl ⟨old, oldLookup, named⟩
  case container_declared =>
    intro id scope found lookup declared
    obtain ⟨old, oldLookup, rfl⟩ := get?_modify_eq_some lookup
    split at declared <;> exact .inl ⟨old, oldLookup, declared⟩
  case binding_named =>
    intro id scope other found lookup named
    obtain ⟨old, oldLookup, rfl⟩ := get?_modify_eq_some lookup
    split at named
    · rename_i here
      simp only [Table.get?_insert] at named
      split at named
      · simp only [Option.some.injEq] at named
        subst named
        exact .inr ⟨_, List.getElem?_concat_length, here.symm⟩
      · exact .inl ⟨old, oldLookup, named⟩
    · exact .inl ⟨old, oldLookup, named⟩

/-- An inner scope is opened. -/
theorem Sound.enter (sound : state.Sound) (kind : ScopeKind) (span : Span) :
    { state with scopes := (state.scopes.enter kind span).2 }.Sound := by
  have encloses : ∀ {outer inner : ScopeId}, inner.index < state.scopes.scopes.length →
      state.scopes.Encloses outer inner →
      (state.scopes.enter kind span).2.Encloses outer inner :=
    fun old => ScopeTree.Encloses.congr sound.scopes.parent_lt
      (fun _ => ScopeTree.parent?_enter) old
  have size : (state.scopes.enter kind span).2.scopes.length = state.scopes.scopes.length + 1 := by
    simp [ScopeTree.enter]
  have opened_before : ∀ {id : ScopeId}, id.index < state.scopes.scopes.length →
      id ∈ (state.scopes.enter kind span).2.path → id ∈ state.scopes.path := by
    intro id old opened
    rcases List.mem_cons.mp (ScopeTree.path_enter .. ▸ opened) with rfl | earlier
    · exact (Nat.lt_irrefl _ old).elim
    · exact earlier
  have tables : ∀ {id scope}, (state.scopes.enter kind span).2.get? id = some scope →
      state.scopes.get? id = some scope ∨
        scope.containers = [] ∧ scope.bindings = [] ∧ scope.declared = [] := by
    intro id scope found
    rw [ScopeTree.get?_enter] at found
    split at found
    · simp only [Option.some.injEq] at found
      subst found
      exact .inr ⟨rfl, rfl, rfl⟩
    · exact .inl found
  constructor
  case toIndexed =>
    constructor
    case container_id => exact sound.container_id
    case container_scope =>
      intro id container found
      have bound := sound.container_scope found
      exact size ▸ Nat.lt_succ_of_lt bound
    case binding_id => exact sound.binding_id
    case binding_scope =>
      intro id binding found
      have bound := sound.binding_scope found
      exact size ▸ Nat.lt_succ_of_lt bound
    case container_named =>
      intro id scope name container found named
      rcases tables found with old | ⟨empty, -, -⟩
      · exact sound.container_named old named
      · simp [empty, Table.get?] at named
    case container_declared =>
      intro id scope container found declared
      rcases tables found with old | ⟨-, -, empty⟩
      · exact sound.container_declared old declared
      · simp [empty] at declared
    case binding_named =>
      intro id scope name binding found named
      rcases tables found with old | ⟨-, empty, -⟩
      · exact sound.binding_named old named
      · simp [empty, Table.get?] at named
  case scopes => exact ScopeTree.enter_wellFormed sound.scopes kind span
  case ledger => exact sound.ledger
  case backed =>
    intro record member
    obtain ⟨container, backs⟩ := sound.backed record member
    exact ⟨container, { backs with
      opened := List.mem_cons_of_mem _ backs.opened
      nested := fun opened => encloses (ScopeTree.lt_of_mem_path sound.scopes backs.opened)
        (backs.nested (opened_before (sound.container_scope backs.found) opened)) }⟩
  case destroyed =>
    intro id container found destroyed opened
    exact sound.destroyed found destroyed (opened_before (sound.container_scope found) opened)
  case grounded =>
    intro id binding found opened
    have old := sound.binding_scope found
    apply (sound.grounded found (opened_before old opened)).mono
    · intro container there lookup live
      exact ⟨there, lookup, live⟩
    · intro record member
      exact ⟨record, member, rfl, rfl⟩
    · intro outer enclosing
      exact encloses old enclosing

end Custody.State
