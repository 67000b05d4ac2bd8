import Custody.Proofs.Runs

/-!
# Lifetimes

The declaration of a container and the nesting of scopes never change.  When a scope exits, every
container that it declared meets the end that its mode prescribes, so an owned or mutable container
that has its data belongs to an open scope.  A borrow that a binding holds was checked against the
scope of its container, and that scope stays open as long as the borrow lasts.
-/

namespace Custody

/-! ## What never changes -/

namespace State

variable {state after : State}

/-- Every declaration and every parent of a scope is still there. -/
structure Persists (state after : State) : Prop where
  declaration : ∀ {id declared}, state.declaration? id = some declared →
    after.declaration? id = some declared
  size : state.scopes.scopes.length ≤ after.scopes.scopes.length
  parent : ∀ id : ScopeId, id.index < state.scopes.scopes.length →
    after.scopes.parent? id = state.scopes.parent? id

theorem Persists.refl (state : State) : state.Persists state :=
  ⟨id, Nat.le_refl _, fun _ _ => rfl⟩

theorem Persists.trans {middle : State} (first : state.Persists middle)
    (second : middle.Persists after) : state.Persists after where
  declaration := fun found => second.declaration (first.declaration found)
  size := Nat.le_trans first.size second.size
  parent := by
    intro id old
    exact (second.parent id (Nat.lt_of_lt_of_le old first.size)).trans (first.parent id old)

theorem Persists.of_scopes_eq (scopes : after.scopes = state.scopes)
    (declaration : ∀ id, after.declaration? id = state.declaration? id) :
    state.Persists after where
  declaration := fun found => (declaration _).trans found
  size := by rw [scopes]
  parent := by
    intro id _
    rw [scopes]

/-- Scopes stay nested as they are. -/
theorem Persists.encloses (persists : state.Persists after) (sound : state.Sound)
    {outer inner : ScopeId} (old : inner.index < state.scopes.scopes.length)
    (encloses : state.scopes.Encloses outer inner) : after.scopes.Encloses outer inner :=
  encloses.congr sound.scopes.parent_lt persists.parent old

theorem Grows.persists (grows : state.Grows after) : state.Persists after where
  declaration := by
    intro id declared found
    obtain ⟨container, lookup, rfl⟩ := Option.map_eq_some_iff.mp found
    rw [declaration?, grows.container_kept lookup]
    rfl
  size := grows.size.ge
  parent := fun id _ => grows.parent id

theorem enter_persists (kind : ScopeKind) (span : Span) :
    state.Persists { state with scopes := (state.scopes.enter kind span).2 } where
  declaration := id
  size := by simp [ScopeTree.enter]
  parent := fun _ => ScopeTree.parent?_enter

theorem Ends.declaration? (ends : state.Ends after) (id : ContainerId) :
    after.declaration? id = state.declaration? id := by
  have same := congrArg (Option.map (·.declaration)) (ends.container id)
  rw [Option.map_map, Option.map_map] at same
  exact same

end State

theorem Change.persists {act : Act} {state after : State} (change : Change act state after)
    (sound : state.Sound) : state.Persists after := by
  cases change with
  | declare declared => exact (State.register_grows declared).persists
  | bind grounds => exact (State.addBinding_grows grounds).persists
  | stand | capture | lend | hold => exact .of_scopes_eq rfl fun _ => rfl
  | insert => exact .of_scopes_eq State.scopes_insert State.declaration?_insert
  | remove => exact .of_scopes_eq State.scopes_remove State.declaration?_remove
  | move | release =>
      exact .of_scopes_eq rfl (State.declaration?_modifyContainer (by intro; rfl))
  | enter => exact State.enter_persists ..
  | exit exits =>
      obtain ⟨-, -, scope, scopes, leaves, ends⟩ := sound.exitScope? exits
      obtain ⟨-, -, closed⟩ := ScopeTree.exit?_eq_some leaves
      exact {
        declaration := fun found => (ends.declaration? _).trans found
        size := by simp [ends.scopes, closed, ScopeTree.close, ScopeTree.modify]
        parent := by
          intro id _
          rw [ends.scopes]
          exact ScopeTree.parent?_exit leaves id }

/-- What a run has declared and nested stays so, however it goes on. -/
theorem Verification.run_persists (before after : List Node) :
    (run {} before).state.Persists (run {} (before ++ after)).state := by
  apply run_keeps before after (.refl _)
  intro act state next sound change persists
  exact persists.trans (change.persists sound)

/-! ## Containers at the exit of their scope -/

namespace Container

variable {container : Container} {span : Span}

/-- A container after the exit of its scope. -/
def ended (container : Container) (span : Span) : Container :=
  { container with
    liveness :=
      if container.isMoved || container.liveness ≠ .live then container.liveness
      else
        match container.mode.onExit with
        | .destroy => .destroyed span
        | .forget => .forgotten span
        | .defer => .live }

theorem ended_of_past (past : (container.isMoved || container.liveness ≠ .live) = true) :
    container.ended span = container := by
  rw [ended, if_pos past]

theorem ended_of_living (living : ¬(container.isMoved || container.liveness ≠ .live) = true) :
    container.ended span =
      { container with
        liveness := match container.mode.onExit with
          | .destroy => .destroyed span
          | .forget => .forgotten span
          | .defer => .live } := by
  rw [ended, if_neg living]

theorem ended_of_defer (action : container.mode.onExit = .defer) :
    container.ended span = container := by
  by_cases past : (container.isMoved || container.liveness ≠ .live) = true
  · exact ended_of_past past
  · have live : container.liveness = .live := by
      by_contra other
      simp [other] at past
    rw [ended_of_living past, action, ← live]

/-- A container meets its end once. -/
theorem ended_ended : (container.ended span).ended span = container.ended span := by
  by_cases past : (container.isMoved || container.liveness ≠ .live) = true
  · rw [ended_of_past past, ended_of_past past]
  · cases action : container.mode.onExit with
    | destroy | forget =>
        apply ended_of_past
        simp [ended_of_living past, action]
    | defer => rw [ended_of_defer action, ended_of_defer action]

end Container

/-- The containers that a scope declared, in their order. -/
def ScopeTree.declaredIn (tree : ScopeTree) (id : ScopeId) : List ContainerId :=
  ((tree.get? id).map (·.declared)).getD []

theorem ScopeTree.declaredIn_modify {tree : ScopeTree} {id : ScopeId} {change : Scope → Scope}
    {added : List ContainerId} (adds : ∀ scope, (change scope).declared = scope.declared ++ added)
    (there : id.index < tree.scopes.length) (other : ScopeId) :
    (tree.modify id change).declaredIn other =
      tree.declaredIn other ++ if other = id then added else [] := by
  rw [declaredIn, declaredIn, get?_modify]
  split
  · rename_i same
    have found : tree.get? other = some tree.scopes[id.index] := by
      rw [same, get?, List.getElem?_eq_getElem there]
    rw [found]
    exact adds _
  · rw [List.append_nil]

theorem ScopeTree.Leaves.declaredIn {tree after : ScopeTree} {id : ScopeId}
    (leaves : tree.Leaves id after) (other : ScopeId) :
    after.declaredIn other = tree.declaredIn other := by
  rw [ScopeTree.declaredIn, leaves.get?]
  split
  · cases found : tree.get? other <;> simp [ScopeTree.declaredIn, found]
  · rfl

theorem ScopeTree.declaredIn_enter {tree : ScopeTree} {kind : ScopeKind} {span : Span}
    {id : ScopeId} (old : id.index < tree.scopes.length) :
    (tree.enter kind span).2.declaredIn id = tree.declaredIn id := by
  rw [declaredIn, get?_enter, if_neg (by omega)]
  rfl

namespace State

variable {state : State}

theorem container?_endContainer
    (numbered : ∀ {id container}, state.container? id = some container → container.id = id)
    (id : ContainerId) (span : Span) (other : ContainerId) :
    (state.endContainer id span).state.container? other =
      if other = id then (state.container? other).map (·.ended span)
      else state.container? other := by
  have unchanged : (state.container? id).map (·.ended span) = state.container? id →
      state.container? other = if other = id then (state.container? other).map (·.ended span)
        else state.container? other := by
    intro same
    split
    · rename_i equal
      rw [equal, same]
    · rfl
  have marked : ∀ {container : Container} {life : Liveness},
      state.container? id = some container →
      container.ended span = { container with liveness := life } →
      (state.modifyContainer id fun container => { container with liveness := life }).container?
        other = if other = id then (state.container? other).map (·.ended span)
          else state.container? other := by
    intro container life found same
    rw [container?_modifyContainer]
    split
    · rename_i equal
      rw [equal, found, Option.map_some, Option.map_some, same]
    · rfl
  unfold endContainer
  split
  · rename_i absent
    exact unchanged (by rw [absent]; rfl)
  · rename_i container found
    split
    · rename_i past
      exact unchanged (by rw [found, Option.map_some, Container.ended_of_past past])
    · rename_i living
      have ended := @Container.ended_of_living container span living
      split
      · rename_i action
        rw [State.destroy, container?_poisonAll, numbered found]
        exact marked found (by rw [ended, action])
      · rename_i action
        exact marked found (by rw [ended, action])
      · rename_i action
        exact unchanged (by rw [found, Option.map_some, Container.ended_of_defer action])

theorem container?_endContainers
    (numbered : ∀ {id container}, state.container? id = some container → container.id = id)
    (ids : List ContainerId) (span : Span) (other : ContainerId) :
    (state.endContainers ids span).state.container? other =
      if other ∈ ids then (state.container? other).map (·.ended span)
      else state.container? other := by
  induction ids generalizing state with
  | nil => rfl
  | cons first rest ih =>
      have later : ∀ {id container}, (state.endContainer first span).state.container? id =
          some container → container.id = id := by
        intro id container found
        obtain ⟨old, lookup, same⟩ := (endContainer_ends first span).before found
        have sameId : container.id = old.id := by rw [same]
        exact sameId.trans (numbered lookup)
      rw [endContainers_cons]
      dsimp only
      rw [ih later, container?_endContainer numbered]
      by_cases now : other = first <;> by_cases more : other ∈ rest <;>
        simp [now, more, Function.comp_def, Container.ended_ended]

theorem Sound.scope_of_declaredIn (sound : state.Sound) {scope : ScopeId} {id : ContainerId}
    {container : Container} (member : id ∈ state.scopes.declaredIn scope)
    (found : state.container? id = some container) : container.scope = scope := by
  rw [ScopeTree.declaredIn] at member
  cases lookup : state.scopes.get? scope with
  | none => simp [lookup] at member
  | some entry =>
      rw [lookup] at member
      obtain ⟨other, otherFound, inScope⟩ := sound.container_declared lookup member
      rw [Option.some.inj (found.symm.trans otherFound)]
      exact inScope

/-- What the closing of a scope does to containers: those of the scope meet the end that their mode
prescribes. -/
theorem container?_closeScope (sound : state.Sound)
    (listed : ∀ {id container}, state.container? id = some container →
      id ∈ state.scopes.declaredIn container.scope)
    {scope : ScopeId} {scopes : ScopeTree} (leaves : state.scopes.Leaves scope scopes) (span : Span)
    (id : ContainerId) :
    ({ state with scopes }.closeScope scope span).state.container? id =
      (state.container? id).map fun container =>
        if container.scope = scope then container.ended span else container := by
  have declared : ((scopes.get? scope).map (·.declared)).getD [] =
      state.scopes.declaredIn scope := leaves.declaredIn scope
  have numbered : ∀ {id container}, { state with
      scopes
      ledger := (state.ledger.releaseScope scope).2 }.container? id = some container →
      container.id = id := sound.container_id
  simp only [closeScope, declared]
  rw [container?_poisonAll, container?_endContainers numbered]
  change (if id ∈ state.scopes.declaredIn scope then (state.container? id).map (·.ended span)
    else state.container? id) = _
  cases found : state.container? id with
  | none => simp
  | some container =>
      by_cases inScope : container.scope = scope
      · rw [if_pos (inScope ▸ listed found), Option.map_some, Option.map_some, if_pos inScope]
      · have other : id ∉ state.scopes.declaredIn scope := fun member =>
          inScope (sound.scope_of_declaredIn member found)
        rw [if_neg other, Option.map_some, if_neg inScope]

theorem exitScope?_eq_some {span : Span} {closing : Closing} {scope : ScopeId}
    {scopes : ScopeTree} (leaves : state.scopes.exit? = some (scope, scopes))
    (exits : state.exitScope? span = some closing) :
    closing = { state with scopes }.closeScope scope span := by
  rw [State.exitScope?, leaves, Option.map_some, Option.some.injEq] at exits
  exact exits.symm

end State

/-! ## Lives that go as the modes prescribe -/

/-- A container whose life goes as its mode prescribes, given the open scopes. -/
structure Container.Orderly (container : Container) (path : List ScopeId) : Prop where
  destroyed : container.mode.onExit = .destroy → container.liveness ≠ .live →
    container.isDestroyed = true
  opened : container.mode.onExit = .destroy → container.movedAt = none →
    container.isDestroyed = false → container.scope ∈ path
  empty : container.mode = .borrowed → container.content = []

namespace Container

variable {container : Container} {path : List ScopeId}

theorem Orderly.mono (orderly : container.Orderly path) {wider : List ScopeId}
    (subset : ∀ id ∈ path, id ∈ wider) : container.Orderly wider where
  destroyed := orderly.destroyed
  opened := fun action unmoved undestroyed =>
    subset _ (orderly.opened action unmoved undestroyed)
  empty := orderly.empty

/-- After the exit of its scope a container keeps nothing that its mode does not grant. -/
theorem Orderly.ended (orderly : container.Orderly path) (span : Span) (remaining : List ScopeId) :
    (container.ended span).Orderly remaining := by
  by_cases past : (container.isMoved || container.liveness ≠ .live) = true
  · rw [ended_of_past past]
    refine ⟨orderly.destroyed, ?_, orderly.empty⟩
    intro action unmoved undestroyed
    have live : container.liveness ≠ .live := by simpa [isMoved, unmoved] using past
    rw [orderly.destroyed action live] at undestroyed
    contradiction
  · rw [ended_of_living past]
    refine ⟨?_, ?_, orderly.empty⟩
    · intro action _
      simp only [isDestroyed]
      rw [show container.mode.onExit = .destroy from action]
    · intro action _ undestroyed
      simp only [isDestroyed] at undestroyed
      rw [show container.mode.onExit = .destroy from action] at undestroyed
      contradiction

end Container

namespace State

/-- A borrow of a container that can be filled.  A borrow with a holder is rooted. -/
def Anchored (state : State) (record : BorrowRecord) : Prop :=
  ∃ declared, state.declaration? record.container = some declared ∧ declared.mode ≠ .borrowed ∧
    (record.holder.isSome = true → declared.scope ∈ state.scopes.path)

/-- The lives of containers and borrows go as the modes prescribe. -/
structure Orderly (state : State) : Prop where
  listed : ∀ {id container}, state.container? id = some container →
    id ∈ state.scopes.declaredIn container.scope
  lives : ∀ {id container}, state.container? id = some container →
    container.Orderly state.scopes.path
  anchored : ∀ record ∈ state.ledger.records, state.Anchored record

variable {state after : State}

theorem initial_orderly : ({} : State).Orderly where
  listed := by simp [container?]
  lives := by simp [container?]
  anchored := by simp

/-- An owned or mutable container that has its data belongs to an open scope. -/
theorem Orderly.scope_mem (orderly : state.Orderly) {id : ContainerId} {container : Container}
    (found : state.container? id = some container) (unmoved : container.movedAt = none)
    (undestroyed : container.isDestroyed = false) (unshared : container.mode ≠ .shared)
    (filled : container.mode ≠ .borrowed) : container.scope ∈ state.scopes.path := by
  refine (orderly.lives found).opened ?_ unmoved undestroyed
  cases mode : container.mode with
  | owned | mutable => rfl
  | borrowed => exact (filled mode).elim
  | shared => exact (unshared mode).elim

theorem Anchored.persists {record : BorrowRecord} (anchored : state.Anchored record)
    (persists : state.Persists after) (path : ∀ id ∈ state.scopes.path, id ∈ after.scopes.path) :
    after.Anchored record := by
  obtain ⟨declared, found, filled, opened⟩ := anchored
  exact ⟨declared, persists.declaration found, filled, fun held => path _ (opened held)⟩

theorem Orderly.setLedger (orderly : state.Orderly) {ledger : Ledger}
    (anchored : ∀ record ∈ ledger.records, state.Anchored record) : { state with ledger }.Orderly :=
  ⟨orderly.listed, orderly.lives, anchored⟩

/-- Borrows that move to other positions stay anchored. -/
theorem Orderly.anchored_map (orderly : state.Orderly) {actor : Option RecordId}
    {change : BorrowRecord → SlotSet} :
    ∀ record ∈ state.ledger.records.map fun record =>
        if some record.id = actor then { record with slots := change record } else record,
      state.Anchored record := by
  intro record member
  obtain ⟨old, oldMember, rfl⟩ := List.mem_map.mp member
  have anchored := orderly.anchored old oldMember
  split
  · exact anchored
  · exact anchored

theorem Orderly.modifyContainer (orderly : state.Orderly) {id : ContainerId}
    {change : Container → Container}
    (keeps : ∀ container, (change container).declaration = container.declaration)
    (lives : ∀ container, state.container? id = some container →
      container.Orderly state.scopes.path → (change container).Orderly state.scopes.path) :
    (state.modifyContainer id change).Orderly where
  listed := by
    intro other container found
    obtain ⟨old, lookup, rfl⟩ := container?_modifyContainer_eq_some found
    split
    · have inScope : (change old).scope = old.scope := congrArg (·.scope) (keeps old)
      rw [inScope]
      exact orderly.listed lookup
    · exact orderly.listed lookup
  lives := by
    intro other container found
    obtain ⟨old, lookup, rfl⟩ := container?_modifyContainer_eq_some found
    split
    · rename_i same
      exact lives old (same ▸ lookup) (orderly.lives lookup)
    · exact orderly.lives lookup
  anchored := by
    intro record member
    exact (orderly.anchored record member).persists
      (.of_scopes_eq rfl (declaration?_modifyContainer keeps)) fun _ opened => opened

/-- Content may be stored in a container that can be filled, and removed from any. -/
theorem Orderly.setContent (orderly : state.Orderly) {id : ContainerId} {content : Content}
    (fills : ∀ container, state.container? id = some container → container.mode = .borrowed →
      container.content = [] → content = []) : (state.setContent id content).Orderly := by
  apply orderly.modifyContainer
  · intro container
    rfl
  · intro container found lives
    exact ⟨lives.destroyed, lives.opened, fun mode => fills container found mode (lives.empty mode)⟩

theorem Orderly.insert (orderly : state.Orderly) (sound : state.Sound) {access : Access}
    {placement : Placement} {slot : Slot}
    (writable : ∃ declared, state.declaration? access.container.id = some declared ∧
      declared.mode.canMutate = true) : (state.insert access placement slot).Orderly := by
  obtain ⟨ledger, -, -, equal, records⟩ := insert_eq sound access placement slot
  have stored : (state.setContent access.container.id
      ((state.content access.container.id).insert placement slot)).Orderly := by
    apply orderly.setContent
    intro container found mode
    obtain ⟨declared, lookup, mutates⟩ := writable
    rw [declaration?, found, Option.map_some, Option.some.injEq] at lookup
    rw [← lookup, show container.declaration.mode = .borrowed from mode] at mutates
    contradiction
  rw [equal]
  apply stored.setLedger
  rw [records]
  exact stored.anchored_map

theorem Orderly.remove (orderly : state.Orderly) (sound : state.Sound) (access : Access)
    (removed : SlotSet) : (state.remove access removed).2.Orderly := by
  obtain ⟨ledger, -, -, equal, records⟩ := remove_eq sound access removed
  have stored : (state.setContent access.container.id
      ((state.content access.container.id).remove removed.toList).2).Orderly := by
    apply orderly.setContent
    intro container found _ empty
    rw [content_eq found, empty]
    rfl
  rw [equal]
  apply stored.setLedger
  rw [records]
  exact stored.anchored_map

theorem Orderly.lend (orderly : state.Orderly) {region : Region} {container : Container}
    (found : state.container? region.container = some container)
    (filled : container.content ≠ []) (unheld : region.holder = none) (ledgered : Bool) :
    { state with ledger := (state.ledger.insert region ledgered).2 }.Orderly := by
  apply orderly.setLedger
  intro record member
  rw [Ledger.records_insert, List.mem_append, List.mem_singleton] at member
  rcases member with old | rfl
  · exact orderly.anchored record old
  · refine ⟨container.declaration, by rw [declaration?, found]; rfl, ?_, ?_⟩
    · intro mode
      exact filled ((orderly.lives found).empty mode)
    · intro held
      simp [unheld] at held

theorem Orderly.hold (orderly : state.Orderly) {id : RecordId} (holder : BindingId)
    (rooted : ∀ record ∈ state.ledger.records, record.id = id → state.Rooted record) :
    { state with ledger := state.ledger.setHolder id holder }.Orderly := by
  apply orderly.setLedger
  intro record member
  obtain ⟨old, oldMember, rfl⟩ := Ledger.mem_records_modify member
  obtain ⟨declared, found, filled, opened⟩ := orderly.anchored old oldMember
  split
  · rename_i same
    obtain ⟨other, otherFound, inScope⟩ := rooted old oldMember same
    rw [Option.some.inj (otherFound.symm.trans found)] at inScope
    exact ⟨declared, found, filled, fun _ => inScope⟩
  · exact ⟨declared, found, filled, opened⟩

theorem Orderly.move (orderly : state.Orderly) (id : ContainerId) (span : Span) :
    (state.markMoved id span).Orderly := by
  apply orderly.modifyContainer
  · intro container
    rfl
  · intro container _ lives
    exact {
      destroyed := lives.destroyed
      opened := fun _ unmoved => by contradiction
      empty := fun _ => rfl }

theorem Orderly.release (orderly : state.Orderly) {id : ContainerId} (span : Span)
    (deferred : List ContainerId)
    (shared : ∃ declared, state.declaration? id = some declared ∧ declared.mode = .shared) :
    { state.modifyContainer id fun container => { container with liveness := .released span }
      with deferred }.Orderly := by
  have released : (state.modifyContainer id fun container =>
      { container with liveness := .released span }).Orderly := by
    apply orderly.modifyContainer
    · intro container
      rfl
    · intro container found lives
      obtain ⟨declared, lookup, mode⟩ := shared
      rw [declaration?, found, Option.map_some, Option.some.injEq] at lookup
      have mode : container.mode = .shared := by
        rw [← mode, ← lookup]
        rfl
      have deferred : container.mode.onExit ≠ .destroy := by
        rw [mode]
        decide
      exact {
        destroyed := fun action => (deferred action).elim
        opened := fun action => (deferred action).elim
        empty := lives.empty }
  exact ⟨released.listed, released.lives, released.anchored⟩

theorem Orderly.addBinding (orderly : state.Orderly) (sound : state.Sound) {name : String}
    {referent : Referent} {perspective : Perspective} {span : Span}
    (grounds : state.Grounds state.scopes.current referent) :
    (state.addBinding name referent perspective span).2.Orderly where
  listed := by
    intro id container found
    have current := ScopeTree.lt_of_mem_path sound.scopes sound.scopes.current_mem
    have declared : (state.addBinding name referent perspective span).2.scopes.declaredIn
        container.scope = state.scopes.declaredIn container.scope ++
          if container.scope = state.scopes.current then [] else [] :=
      ScopeTree.declaredIn_modify (by intro; exact (List.append_nil _).symm) current _
    rw [declared]
    exact List.mem_append_left _ (orderly.listed found)
  lives := orderly.lives
  anchored := by
    intro record member
    exact (orderly.anchored record member).persists (addBinding_grows grounds).persists
      fun _ opened => opened

theorem Orderly.register (orderly : state.Orderly) (sound : state.Sound) {name : String}
    {element : Element} {key : Option Element} {mode : Mode} {span : Span} {container : Container}
    (declared : state.register name element key mode span = .ok (container, after)) :
    after.Orderly := by
  have persists := (register_grows declared).persists
  have current := ScopeTree.lt_of_mem_path sound.scopes sound.scopes.current_mem
  obtain ⟨new, rfl⟩ := register_eq_ok declared
  have newId : container.id = ⟨state.containers.length⟩ := by rw [new]
  have newScope : container.scope = state.scopes.current := by rw [new]
  constructor
  case listed =>
    intro id found lookup
    rw [ScopeTree.declaredIn_modify (fun _ => rfl) current]
    rcases getElem?_concat_eq_some lookup with old | ⟨index, rfl⟩
    · exact List.mem_append_left _ (orderly.listed old)
    · rw [newScope, if_pos rfl]
      apply List.mem_append_right
      rw [newId, ← index]
      exact List.mem_singleton_self _
  case lives =>
    intro id found lookup
    rcases getElem?_concat_eq_some lookup with old | ⟨index, rfl⟩
    · exact orderly.lives old
    · exact {
        destroyed := fun _ dead => by simp [new] at dead
        opened := fun _ _ _ => newScope ▸ sound.scopes.current_mem
        empty := fun _ => by rw [new] }
  case anchored =>
    intro record member
    exact (orderly.anchored record member).persists persists fun _ opened => opened

theorem Orderly.enter (orderly : state.Orderly) (sound : state.Sound)
    (kind : ScopeKind) (span : Span) :
    { state with scopes := (state.scopes.enter kind span).2 }.Orderly := by
  have wider : ∀ id ∈ state.scopes.path, id ∈ (state.scopes.enter kind span).2.path :=
    fun _ opened => List.mem_cons_of_mem _ opened
  constructor
  case listed =>
    intro id container found
    rw [ScopeTree.declaredIn_enter (sound.container_scope found)]
    exact orderly.listed found
  case lives =>
    intro id container found
    exact (orderly.lives found).mono wider
  case anchored =>
    intro record member
    exact (orderly.anchored record member).persists (enter_persists kind span) wider

theorem Orderly.exit (orderly : state.Orderly) (sound : state.Sound) {span : Span}
    {closing : Closing} (exits : state.exitScope? span = some closing) :
    closing.state.Orderly := by
  obtain ⟨after, -, scope, scopes, leaves, ends⟩ := sound.exitScope? exits
  obtain ⟨path, -, -⟩ := ScopeTree.exit?_eq_some leaves
  have left := container?_closeScope sound orderly.listed (ScopeTree.exit?_leaves leaves) span
  rw [← exitScope?_eq_some leaves exits] at left
  have remains : closing.state.scopes = scopes := ends.scopes
  constructor
  case listed =>
    intro id container found
    rw [left, Option.map_eq_some_iff] at found
    obtain ⟨old, lookup, rfl⟩ := found
    rw [remains, (ScopeTree.exit?_leaves leaves).declaredIn]
    split
    · change id ∈ state.scopes.declaredIn old.scope
      exact orderly.listed lookup
    · exact orderly.listed lookup
  case lives =>
    intro id container found
    rw [left, Option.map_eq_some_iff] at found
    obtain ⟨old, lookup, rfl⟩ := found
    rw [remains]
    have lives := orderly.lives lookup
    split
    · exact lives.ended span scopes.path
    · rename_i other
      refine { lives with opened := ?_ }
      intro action unmoved undestroyed
      have opened := lives.opened action unmoved undestroyed
      rw [path] at opened
      exact (List.mem_cons.mp opened).resolve_left other
  case anchored =>
    intro record member
    have before := (records_exit sound exits).2 record member
    obtain ⟨declared, found, filled, opened⟩ := orderly.anchored record before
    refine ⟨declared, (ends.declaration? _).trans found, filled, ?_⟩
    intro held
    -- The scope of the container encloses that of the borrow, which has not exited.
    obtain ⟨container, lookup, rfl⟩ := Option.map_eq_some_iff.mp found
    have encloses := (sound.backs before lookup).nested (opened held)
    have encloses := (ScopeTree.encloses_congr (ScopeTree.parent?_exit leaves) _ _).mpr encloses
    obtain ⟨there, backs⟩ := after.backed record member
    rw [← remains] at encloses
    exact encloses.mem_path after.scopes backs.opened

end State

theorem Change.orderly {act : Act} {state after : State} (change : Change act state after)
    (sound : state.Sound) (orderly : state.Orderly) : after.Orderly := by
  cases change with
  | declare declared => exact orderly.register sound declared
  | bind grounds => exact orderly.addBinding sound grounds
  | stand | capture => exact ⟨orderly.listed, orderly.lives, orderly.anchored⟩
  | insert _ _ _ writable => exact orderly.insert sound writable
  | remove => exact orderly.remove sound ..
  | lend _ found _ _ _ _ filled unheld => exact orderly.lend found filled unheld _
  | hold rooted => exact orderly.hold _ rooted
  | move => exact orderly.move ..
  | release shared => exact orderly.release _ _ shared
  | enter => exact orderly.enter sound ..
  | exit exits => exact orderly.exit sound exits

/-- In every state of a run the lives go as the modes prescribe. -/
theorem Verification.run_orderly (nodes : List Node) : (run {} nodes).state.Orderly := by
  apply run_keeps [] nodes State.initial_orderly
  intro act state next sound change orderly
  exact change.orderly sound orderly

end Custody
