import Custody.Proofs.Lifetimes

/-!
# The lives of containers

What one change can make of a container.  A container that was moved away stays exactly as it is,
and the life of a container ends once, in an end that its mode allows.  A container whose scope has
closed was moved away or has come to its end, unless it is shared and waits for the end of the
stream.
-/

namespace Custody

/-! ## One container -/

/-- The ends that the mode of a container allows. -/
def Mode.Allows (mode : Mode) : Liveness → Prop
  | .live => True
  | .destroyed _ => mode ≠ .borrowed
  | .forgotten _ => mode = .borrowed
  | .released _ => mode = .shared

namespace Container

/-- What one change may make of a container. -/
inductive Alters (container : Container) : Container → Prop
  | stays : container.Alters container
  | holds {content : Content} (unmoved : container.movedAt = none) :
      container.Alters { container with content }
  | moves {span : Span} (owned : container.mode.canTake = true)
      (once : container.movedAt = none ∨ container.movedAt = some span) :
      container.Alters (container.markMoved span)
  | released {span : Span} (shared : container.mode = .shared)
      (usable : container.ensureUsable span = .ok ()) :
      container.Alters { container with liveness := .released span }
  | ended {span : Span} : container.Alters (container.ended span)
  | destroyed {span : Span} (shared : container.mode = .shared)
      (live : container.liveness = .live) :
      container.Alters { container with liveness := .destroyed span }

/-- A container that has nothing left once it was moved away, and whose end its mode allows. -/
structure Regular (container : Container) : Prop where
  emptied : container.isMoved = true → container.content = []
  owned : container.isMoved = true → container.mode.canTake = true
  allowed : container.mode.Allows container.liveness

variable {container later : Container}

theorem Alters.declaration (alters : container.Alters later) :
    later.declaration = container.declaration := by
  cases alters <;> rfl

theorem declaration_regular : container.declaration.Regular where
  emptied := fun moved => nomatch moved
  owned := fun moved => nomatch moved
  allowed := trivial

theorem allows_ended (allowed : container.mode.Allows container.liveness) (span : Span) :
    (container.ended span).mode.Allows (container.ended span).liveness := by
  by_cases past : (container.isMoved || container.liveness ≠ .live) = true
  · rw [ended_of_past past]
    exact allowed
  · rw [ended_of_living past]
    cases container.mode <;> simp [Mode.Allows, Mode.onExit]

/-- A shared container is never moved away. -/
theorem Regular.unmoved_of_shared (regular : container.Regular)
    (shared : container.mode = .shared) :
    container.isMoved = false := by
  by_contra moved
  rw [Bool.not_eq_false] at moved
  have owned := regular.owned moved
  rw [shared] at owned
  contradiction

theorem Alters.regular (alters : container.Alters later) (regular : container.Regular) :
    later.Regular := by
  cases alters with
  | stays => exact regular
  | holds unmoved =>
      have still : container.isMoved = false := by rw [isMoved, unmoved]; rfl
      refine ⟨fun moved => ?_, regular.owned, regular.allowed⟩
      exact absurd (still.symm.trans moved) Bool.false_ne_true
  | moves owned => exact ⟨fun _ => rfl, fun _ => owned, regular.allowed⟩
  | released shared => exact ⟨regular.emptied, regular.owned, shared⟩
  | ended =>
      exact {
        emptied := regular.emptied
        owned := regular.owned
        allowed := allows_ended regular.allowed _ }
  | destroyed shared =>
      refine ⟨regular.emptied, regular.owned, fun borrowed => ?_⟩
      cases shared.symm.trans borrowed

/-- Whatever can be used and is not borrowed is alive. -/
theorem live_of_usable {span : Span} (usable : container.ensureUsable span = .ok ())
    (allowed : container.mode.Allows container.liveness) (filled : container.mode ≠ .borrowed) :
    container.liveness = .live := by
  rw [ensureUsable_eq_ok_iff, isUsable] at usable
  cases life : container.liveness with
  | live => rfl
  | destroyed | released =>
      rw [life] at usable
      cases moved : container.movedAt <;> simp [moved] at usable
  | forgotten =>
      rw [life] at allowed
      exact (filled allowed).elim

/-- A life that has ended stays as it ended. -/
theorem Alters.liveness_eq (alters : container.Alters later) (regular : container.Regular)
    (gone : container.liveness ≠ .live) : later.liveness = container.liveness := by
  cases alters with
  | stays | holds | moves => rfl
  | released shared usable =>
      have filled : container.mode ≠ .borrowed := by simp [shared]
      exact (gone (live_of_usable usable regular.allowed filled)).elim
  | ended => rw [ended_of_past (by simp [gone])]
  | destroyed shared live => exact (gone live).elim

/-- A container that was moved away stays exactly as it is. -/
theorem Alters.eq_of_moved (alters : container.Alters later) (regular : container.Regular)
    (moved : container.isMoved = true) : later = container := by
  cases alters with
  | stays => rfl
  | holds unmoved => simp [isMoved, unmoved] at moved
  | moves owned once =>
      cases once with
      | inl unmoved => simp [isMoved, unmoved] at moved
      | inr same => rw [markMoved, ← same, ← regular.emptied moved]
  | released shared =>
      rw [regular.unmoved_of_shared shared] at moved
      contradiction
  | ended => exact ended_of_past (by simp [moved])
  | destroyed shared =>
      rw [regular.unmoved_of_shared shared] at moved
      contradiction

/-- What becomes of a container in the course of a run. -/
structure Becomes (container later : Container) : Prop where
  declaration : later.declaration = container.declaration
  ended : container.liveness ≠ .live → later.liveness = container.liveness
  moved : container.isMoved = true → later = container

theorem Becomes.refl (container : Container) : container.Becomes container :=
  ⟨rfl, fun _ => rfl, fun _ => rfl⟩

theorem Becomes.trans {middle : Container} (first : container.Becomes middle)
    (second : middle.Becomes later) : container.Becomes later where
  declaration := second.declaration.trans first.declaration
  ended := by
    intro gone
    have same := first.ended gone
    exact (second.ended (same ▸ gone)).trans same
  moved := by
    intro moved
    have same := first.moved moved
    exact (second.moved (same ▸ moved)).trans same

theorem Alters.becomes (alters : container.Alters later) (regular : container.Regular) :
    container.Becomes later :=
  ⟨alters.declaration, alters.liveness_eq regular, alters.eq_of_moved regular⟩

/-- Whether a container is put off to the end of the stream when its scope closes. -/
def waits (container : Container) : Bool :=
  !(container.isMoved || container.liveness ≠ .live) && container.mode.onExit = .defer

theorem waits_ended (container : Container) (span : Span) :
    (container.ended span).waits = container.waits := by
  cases action : container.mode.onExit with
  | defer => rw [ended_of_defer action]
  | destroy | forget =>
      have unshared : (container.ended span).mode.onExit ≠ .defer := by
        change container.mode.onExit ≠ .defer
        rw [action]
        decide
      rw [waits, waits, decide_eq_false unshared, action, Bool.and_false]
      exact (Bool.and_false _).symm

theorem shared_of_waits (container : Container) (waits : container.waits = true) :
    container.mode = .shared := by
  have deferred : container.mode.onExit = .defer := by
    rw [Container.waits, Bool.and_eq_true] at waits
    exact of_decide_eq_true waits.2
  cases mode : container.mode with
  | owned | mutable | borrowed =>
      rw [mode] at deferred
      contradiction
  | shared => rfl

/-- A container has come to its end with its scope, or waits. -/
theorem ended_or_waits (container : Container) (span : Span) :
    (container.ended span).isMoved = true ∨ (container.ended span).liveness ≠ .live ∨
      container.waits = true := by
  by_cases past : (container.isMoved || container.liveness ≠ .live) = true
  · rw [ended_of_past past]
    cases moved : container.isMoved with
    | true => exact .inl rfl
    | false => exact .inr (.inl (by simpa [moved] using past))
  · cases action : container.mode.onExit with
    | defer =>
        rw [Bool.not_eq_true] at past
        exact .inr (.inr (by rw [waits, past, action]; rfl))
    | destroy | forget =>
        refine .inr (.inl ?_)
        rw [ended_of_living past, action]
        exact nofun

end Container

/-! ## All containers -/

namespace State

variable {state after : State}

theorem mode_eq {id : ContainerId} {container declared : Container}
    (found : state.container? id = some container)
    (lookup : state.declaration? id = some declared) : container.mode = declared.mode := by
  rw [declaration?, found, Option.map_some, Option.some.injEq] at lookup
  rw [← lookup]
  rfl

/-- Every container is still there, and those that are new have just been declared. -/
structure Evolves (state after : State) : Prop where
  kept : ∀ {id container}, state.container? id = some container →
    ∃ later, after.container? id = some later ∧ container.Alters later
  fresh : ∀ {id container}, after.container? id = some container →
    state.container? id = none →
    container = container.declaration ∧ container.scope = state.scopes.current

theorem Evolves.before (evolves : state.Evolves after) {id : ContainerId} {later : Container}
    (found : after.container? id = some later) :
    (∃ container, state.container? id = some container ∧ container.Alters later) ∨
      later = later.declaration ∧ later.scope = state.scopes.current := by
  cases earlier : state.container? id with
  | none => exact .inr (evolves.fresh found earlier)
  | some container =>
      obtain ⟨other, there, alters⟩ := evolves.kept earlier
      rw [Option.some.inj (there.symm.trans found)] at alters
      exact .inl ⟨container, rfl, alters⟩

theorem Evolves.of_map {change : ContainerId → Container → Container}
    (same : ∀ id, after.container? id = (state.container? id).map (change id))
    (alters : ∀ {id container}, state.container? id = some container →
      container.Alters (change id container)) : state.Evolves after where
  kept := by
    intro id container found
    refine ⟨change id container, ?_, alters found⟩
    rw [same, found, Option.map_some]
  fresh := by
    intro id container found absent
    rw [same, absent] at found
    contradiction

theorem Evolves.of_containers (same : after.containers = state.containers) :
    state.Evolves after := by
  apply @Evolves.of_map state after fun _ container => container
  · intro id
    rw [container?, same, Option.map_id']
    rfl
  · intro id container _
    exact .stays

theorem Evolves.of_changed {id : ContainerId} {change : Container → Container}
    (same : ∀ other, after.container? other =
      if other = id then (state.container? other).map change else state.container? other)
    (alters : ∀ container, state.container? id = some container →
      container.Alters (change container)) : state.Evolves after := by
  apply @Evolves.of_map state after fun other container =>
    if other = id then change container else container
  · intro other
    rw [same]
    split
    · rfl
    · exact Option.map_id'.symm
  · intro other container found
    split
    · rename_i here
      exact alters container (here ▸ found)
    · exact .stays

/-- The closing of a scope ends the lives of its containers. -/
theorem closeScope_evolves (sound : state.Sound) (orderly : state.Orderly) {scope : ScopeId}
    {scopes : ScopeTree} (leaves : state.scopes.Leaves scope scopes) (span : Span) :
    state.Evolves ({ state with scopes }.closeScope scope span).state := by
  apply @Evolves.of_map state _ fun _ container =>
    if container.scope = scope then container.ended span else container
  · exact container?_closeScope sound orderly.listed leaves span
  · intro id container _
    split
    · exact .ended
    · exact .stays

end State

theorem Change.evolves {act : Act} {state after : State} (change : Change act state after)
    (sound : state.Sound) (orderly : state.Orderly) : state.Evolves after := by
  cases change with
  | declare declared =>
      obtain ⟨new, rfl⟩ := State.register_eq_ok declared
      constructor
      · intro id container found
        exact ⟨container, (List.getElem?_append_left (State.container?_lt found)).trans found,
          .stays⟩
      · intro id container found absent
        cases State.getElem?_concat_eq_some found with
        | inl old => exact nomatch old.symm.trans absent
        | inr added =>
            rw [added.2, new]
            exact ⟨rfl, rfl⟩
  | bind | stand | capture | lend | hold | enter => exact .of_containers rfl
  | insert _ _ _ _ _ unmoved =>
      exact .of_changed State.container?_insert fun container found =>
        .holds (unmoved container found)
  | remove _ _ _ unmoved =>
      exact .of_changed State.container?_remove fun container found =>
        .holds (unmoved container found)
  | move movable =>
      refine .of_changed (fun other => State.container?_modifyContainer ..) ?_
      intro container found
      obtain ⟨declared, lookup, owned⟩ := movable.owned
      rw [← State.mode_eq found lookup] at owned
      exact .moves owned (movable.once container found)
  | release shared usable =>
      refine .of_changed (fun other => State.container?_modifyContainer ..) ?_
      intro container found
      obtain ⟨declared, lookup, mode⟩ := shared
      exact .released ((State.mode_eq found lookup).trans mode) (usable container found)
  | exit exits =>
      obtain ⟨-, -, scope, scopes, leaves, -⟩ := sound.exitScope? exits
      rw [State.exitScope?_eq_some leaves exits]
      exact State.closeScope_evolves sound orderly (ScopeTree.exit?_leaves leaves) _

/-! ## Containers of closed scopes -/

namespace State

variable {state after : State}

/-- A container that nothing is left to be done for, or that is put off to the end of the stream. -/
def Settled (state : State) (id : ContainerId) (container : Container) : Prop :=
  container.isMoved = true ∨ container.liveness ≠ .live ∨ id ∈ state.deferred

/-- Every container has a regular life, those of closed scopes are settled, and only shared ones
are put off. -/
structure Accounted (state : State) : Prop where
  regular : ∀ {id container}, state.container? id = some container → container.Regular
  settled : ∀ {id container}, state.container? id = some container →
    container.scope ∉ state.scopes.path → state.Settled id container
  deferred : ∀ id ∈ state.deferred, ∃ declared, state.declaration? id = some declared ∧
    declared.mode = .shared

theorem initial_accounted : ({} : State).Accounted where
  regular := by simp [container?]
  settled := by simp [container?]
  deferred := by simp

theorem Settled.alters {id : ContainerId} {container later : Container}
    (settled : state.Settled id container) (regular : container.Regular)
    (alters : container.Alters later)
    (deferred : id ∈ state.deferred → later.liveness ≠ .live ∨ id ∈ after.deferred) :
    after.Settled id later := by
  rcases settled with moved | gone | waits
  · rw [alters.eq_of_moved regular moved]
    exact .inl moved
  · refine .inr (.inl ?_)
    rw [alters.liveness_eq regular gone]
    exact gone
  · exact .inr (deferred waits)

theorem Evolves.regular (evolves : state.Evolves after) (accounted : state.Accounted)
    {id : ContainerId} {later : Container} (found : after.container? id = some later) :
    later.Regular := by
  cases evolves.before found with
  | inl old =>
      obtain ⟨container, lookup, alters⟩ := old
      exact alters.regular (accounted.regular lookup)
  | inr new =>
      rw [new.1]
      exact Container.declaration_regular

/-- Whatever closes no scope keeps the containers of closed scopes settled. -/
theorem Accounted.evolve (accounted : state.Accounted) (sound : state.Sound)
    (evolves : state.Evolves after)
    (declaration : ∀ {id declared}, state.declaration? id = some declared →
      after.declaration? id = some declared)
    (path : ∀ id ∈ state.scopes.path, id ∈ after.scopes.path)
    (subset : ∀ id ∈ after.deferred, id ∈ state.deferred)
    (waits : ∀ {id later}, after.container? id = some later → id ∈ state.deferred →
      later.liveness ≠ .live ∨ id ∈ after.deferred) : after.Accounted where
  regular := evolves.regular accounted
  settled := by
    intro id later found closed
    cases evolves.before found with
    | inl old =>
        obtain ⟨container, lookup, alters⟩ := old
        have sameScope : later.scope = container.scope :=
          congrArg (·.scope) alters.declaration
        have wasClosed : container.scope ∉ state.scopes.path := fun opened =>
          closed (sameScope ▸ path _ opened)
        exact (accounted.settled lookup wasClosed).alters (accounted.regular lookup) alters
          (waits found)
    | inr new =>
        -- A new container belongs to the current scope, which is open.
        rw [new.2] at closed
        exact (closed (path _ sound.scopes.current_mem)).elim
  deferred := by
    intro id member
    obtain ⟨declared, lookup, shared⟩ := accounted.deferred id (subset id member)
    exact ⟨declared, declaration lookup, shared⟩

theorem Accounted.release (accounted : state.Accounted) (sound : state.Sound)
    {id : ContainerId} {span : Span}
    (evolves : state.Evolves
      { state.modifyContainer id fun container => { container with liveness := .released span }
        with deferred := state.deferred.filter (· ≠ id) }) :
    { state.modifyContainer id fun container => { container with liveness := .released span }
      with deferred := state.deferred.filter (· ≠ id) }.Accounted := by
  apply accounted.evolve sound evolves
  · intro other declared lookup
    exact (declaration?_modifyContainer (by intro; rfl) other).trans lookup
  · intro scope opened
    exact opened
  · intro other member
    exact (List.mem_filter.mp member).1
  · intro other later found member
    -- What was put off and is released now waits no longer: its life has ended.
    by_cases here : other = id
    · obtain ⟨old, -, rfl⟩ := container?_modifyContainer_eq_some found
      rw [if_pos here]
      exact .inl nofun
    · exact .inr (List.mem_filter.mpr ⟨member, by simpa using here⟩)

/-! ## What is put off -/

theorem deferred_poisonAll (bindings : List Binding) (cause : Binding → LifetimeBreach)
    (span : Span) : (state.poisonAll bindings cause span).state.deferred = state.deferred := by
  simp only [State.poisonAll]
  induction bindings generalizing state with
  | nil => rfl
  | cons first rest ih => exact @ih (state.poison first.id)

/-- Whether a container is put off to the end of the stream when its scope closes. -/
def waits (state : State) (id : ContainerId) : Bool :=
  (state.container? id).any (·.waits)

theorem deferred_endContainer (id : ContainerId) (span : Span) :
    (state.endContainer id span).state.deferred =
      state.deferred ++ if state.waits id then [id] else [] := by
  cases found : state.container? id with
  | none => simp [endContainer, waits, found]
  | some container =>
      simp only [endContainer, waits, found, Option.any_some, Container.waits]
      by_cases past : (container.isMoved || container.liveness ≠ .live) = true
      · rw [if_pos past, past]
        exact (List.append_nil _).symm
      · rw [if_neg past, Bool.eq_false_of_not_eq_true past]
        cases container.mode.onExit with
        | destroy => exact (deferred_poisonAll ..).trans (List.append_nil _).symm
        | forget => exact (List.append_nil _).symm
        | defer => rfl

theorem deferred_endContainers
    (numbered : ∀ {id container}, state.container? id = some container → container.id = id)
    (ids : List ContainerId) (span : Span) :
    (state.endContainers ids span).state.deferred = state.deferred ++ ids.filter state.waits := by
  induction ids generalizing state with
  | nil => simp [endContainers]
  | cons first rest ih =>
      have later : ∀ {id container}, (state.endContainer first span).state.container? id =
          some container → container.id = id := by
        intro id container found
        obtain ⟨old, lookup, same⟩ := (endContainer_ends first span).before found
        have sameId : container.id = old.id := by rw [same]
        exact sameId.trans (numbered lookup)
      -- The end of one container puts off no other, and none twice.
      have waiting : (state.endContainer first span).state.waits = state.waits := by
        funext other
        rw [waits, container?_endContainer numbered]
        split
        · cases found : state.container? other <;> simp [waits, found, Container.waits_ended]
        · rfl
      rw [endContainers_cons]
      dsimp only
      rw [ih later, deferred_endContainer, waiting, List.filter_cons]
      split <;> simp

theorem deferred_closeScope (sound : state.Sound) {scope : ScopeId} {scopes : ScopeTree}
    (leaves : state.scopes.Leaves scope scopes) (span : Span) :
    ({ state with scopes }.closeScope scope span).state.deferred =
      state.deferred ++ (state.scopes.declaredIn scope).filter state.waits := by
  have declared : ((scopes.get? scope).map (·.declared)).getD [] =
      state.scopes.declaredIn scope := leaves.declaredIn scope
  have numbered : ∀ {id container}, { state with
      scopes
      ledger := (state.ledger.releaseScope scope).2 }.container? id = some container →
      container.id = id := sound.container_id
  simp only [closeScope, declared]
  rw [deferred_poisonAll, deferred_endContainers numbered]
  rfl

theorem closeScope_ends (scope : ScopeId) (span : Span) :
    { state with ledger := (state.ledger.releaseScope scope).2 }.Ends
      (state.closeScope scope span).state :=
  (endContainers_ends ..).trans
    (poisonAll_ends _ (fun binding => .staleView binding.name) span)

/-- The closing of a scope settles the containers of the scope. -/
theorem Accounted.closeScope (accounted : state.Accounted) (sound : state.Sound)
    (orderly : state.Orderly) {scope : ScopeId} {scopes : ScopeTree}
    (leaves : state.scopes.Leaves scope scopes) (span : Span) :
    ({ state with scopes }.closeScope scope span).state.Accounted := by
  have deferred := deferred_closeScope sound leaves span
  have ends : Ends _ ({ state with scopes }.closeScope scope span).state :=
    closeScope_ends scope span
  constructor
  case regular => exact (closeScope_evolves sound orderly leaves span).regular accounted
  case settled =>
    intro id later found closed
    rw [container?_closeScope sound orderly.listed leaves, Option.map_eq_some_iff] at found
    obtain ⟨container, lookup, rfl⟩ := found
    rw [ends.scopes] at closed
    by_cases inScope : container.scope = scope
    · rw [if_pos inScope]
      rcases container.ended_or_waits span with moved | gone | waits
      · exact .inl moved
      · exact .inr (.inl gone)
      · refine .inr (.inr ?_)
        rw [deferred]
        apply List.mem_append_right
        refine List.mem_filter.mpr ⟨inScope ▸ orderly.listed lookup, ?_⟩
        rw [State.waits, lookup]
        exact waits
    · rw [if_neg inScope] at closed ⊢
      have wasClosed : container.scope ∉ state.scopes.path := by
        rw [leaves.path, List.mem_cons]
        exact fun opened => opened.elim inScope closed
      apply (accounted.settled lookup wasClosed).alters (accounted.regular lookup) .stays
      intro waits
      rw [deferred]
      exact .inr (List.mem_append_left _ waits)
  case deferred =>
    intro id member
    rw [deferred, List.mem_append] at member
    cases member with
    | inl old =>
        obtain ⟨declared, lookup, shared⟩ := accounted.deferred id old
        exact ⟨declared, (ends.declaration? id).trans lookup, shared⟩
    | inr new =>
        obtain ⟨container, lookup, waits⟩ :=
          (Option.any_eq_true _ _).mp (List.mem_filter.mp new).2
        refine ⟨container.declaration, (ends.declaration? id).trans ?_, ?_⟩
        · exact congrArg (Option.map (·.declaration)) lookup
        · exact container.shared_of_waits waits

end State

theorem Change.accounted {act : Act} {state after : State} (change : Change act state after)
    (sound : state.Sound) (orderly : state.Orderly) (accounted : state.Accounted) :
    after.Accounted := by
  have evolves := change.evolves sound orderly
  have declaration := @State.Persists.declaration _ _ (change.persists sound)
  have keep : after.deferred = state.deferred →
      (∀ id ∈ state.scopes.path, id ∈ after.scopes.path) → after.Accounted := by
    intro deferred path
    apply accounted.evolve sound evolves declaration path
    · intro id member
      rw [← deferred]
      exact member
    · intro id later _ member
      rw [deferred]
      exact .inr member
  cases change with
  | declare declared =>
      obtain ⟨-, rfl⟩ := State.register_eq_ok declared
      exact keep rfl fun _ opened => opened
  | bind | stand | capture | lend | hold | move => exact keep rfl fun _ opened => opened
  | insert =>
      obtain ⟨ledger, -, -, equal, -⟩ := State.insert_eq sound ..
      rw [equal] at keep ⊢
      exact keep rfl fun _ opened => opened
  | remove =>
      obtain ⟨ledger, -, -, equal, -⟩ := State.remove_eq sound ..
      rw [equal] at keep ⊢
      exact keep rfl fun _ opened => opened
  | release => exact accounted.release sound evolves
  | enter => exact keep rfl fun _ opened => List.mem_cons_of_mem _ opened
  | exit exits =>
      obtain ⟨-, -, scope, scopes, leaves, -⟩ := sound.exitScope? exits
      rw [State.exitScope?_eq_some leaves exits]
      exact accounted.closeScope sound orderly (ScopeTree.exit?_leaves leaves) _

/-! ## Whole runs -/

namespace State

variable {state after : State}

/-- The lives of the containers of a state are in order. -/
structure Regulated (state : State) : Prop where
  sound : state.Sound
  orderly : state.Orderly
  accounted : state.Accounted

theorem initial_regulated : ({} : State).Regulated :=
  ⟨initial_sound, initial_orderly, initial_accounted⟩

/-- Every container is still there.  No life that has ended ends again, and what was moved away
stays as it is. -/
structure Retains (state after : State) : Prop where
  kept : ∀ {id container}, state.container? id = some container →
    ∃ later, after.container? id = some later ∧ container.Becomes later

theorem Retains.refl (state : State) : state.Retains state :=
  ⟨fun {_ container} found => ⟨container, found, .refl container⟩⟩

theorem Retains.trans {middle : State} (first : state.Retains middle)
    (second : middle.Retains after) : state.Retains after := by
  constructor
  intro id container found
  obtain ⟨next, there, becomes⟩ := first.kept found
  obtain ⟨later, last, further⟩ := second.kept there
  exact ⟨later, last, becomes.trans further⟩

theorem Evolves.retains (evolves : state.Evolves after) (accounted : state.Accounted) :
    state.Retains after := by
  constructor
  intro id container found
  obtain ⟨later, there, alters⟩ := evolves.kept found
  exact ⟨later, there, alters.becomes (accounted.regular found)⟩

end State

theorem Change.regulated {act : Act} {state after : State} (change : Change act state after)
    (regulated : state.Regulated) : after.Regulated where
  sound := change.sound regulated.sound
  orderly := change.orderly regulated.sound regulated.orderly
  accounted := change.accounted regulated.sound regulated.orderly regulated.accounted

theorem Change.retains {act : Act} {state after : State} (change : Change act state after)
    (regulated : state.Regulated) : state.Retains after :=
  (change.evolves regulated.sound regulated.orderly).retains regulated.accounted

theorem Changes.retains {act : Act} {state after : State} (changes : Changes act state after)
    (regulated : state.Regulated) : state.Retains after ∧ after.Regulated := by
  induction changes with
  | refl => exact ⟨.refl state, regulated⟩
  | tail _ change ih =>
      obtain ⟨retains, middle⟩ := ih
      exact ⟨retains.trans (change.retains middle), change.regulated middle⟩

namespace Verification

theorem run_regulated (nodes : List Node) : (run {} nodes).state.Regulated := by
  apply run_keeps [] nodes State.initial_regulated
  intro act state next _ change regulated
  exact change.regulated regulated

/-- A run keeps its containers, however it goes on. -/
theorem run_retains (before after : List Node) :
    (run {} before).state.Retains (run {} (before ++ after)).state := by
  induction after using List.reverseRecOn with
  | nil =>
      rw [List.append_nil]
      exact .refl _
  | append_singleton after node ih =>
      rw [← List.append_assoc, run_concat]
      have regulated := run_regulated (before ++ after)
      exact ih.trans
        ((State.perform_changes regulated.sound node.operation node.span).retains regulated).1

end Verification

end Custody
