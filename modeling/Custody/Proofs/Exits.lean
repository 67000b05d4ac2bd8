import Custody.Proofs.Preservation
import Custody.Verifier.Closing

/-!
# Exits of scopes

A scope that exits takes its borrows with it and ends the lives of its containers.  No borrow of
another scope lies on one of these containers, and no binding that survives is a view on one of
these borrows, so the state stays sound and no view is ever left behind.
-/

namespace Custody.State

variable {state : State}

/-! ## Bindings that lose their referents -/

theorem Sound.poison (sound : state.Sound) (id : BindingId) : (state.poison id).Sound :=
  sound.modifyBinding (fun _ _ => ⟨rfl, rfl⟩) (fun _ _ _ => trivial)

theorem Sound.poisonAll (sound : state.Sound) (bindings : List Binding)
    (cause : Binding → LifetimeBreach) (span : Span) :
    (state.poisonAll bindings cause span).state.Sound := by
  simp only [State.poisonAll]
  induction bindings generalizing state with
  | nil => exact sound
  | cons first rest ih => exact ih (sound.poison first.id)

/-- Poisoning changes bindings only. -/
theorem poisonAll_modifyContainer (bindings : List Binding) (cause : Binding → LifetimeBreach)
    (span : Span) (id : ContainerId) (change : Container → Container) :
    ((state.modifyContainer id change).poisonAll bindings cause span).state =
      (state.poisonAll bindings cause span).state.modifyContainer id change := by
  simp only [State.poisonAll]
  induction bindings generalizing state with
  | nil => rfl
  | cons first rest ih => exact @ih (state.poison first.id)

theorem poisonAll_unchanged (bindings : List Binding) (cause : Binding → LifetimeBreach)
    (span : Span) :
    (state.poisonAll bindings cause span).state.scopes = state.scopes ∧
      (state.poisonAll bindings cause span).state.ledger = state.ledger ∧
      (state.poisonAll bindings cause span).state.containers = state.containers := by
  simp only [State.poisonAll]
  induction bindings generalizing state with
  | nil => exact ⟨rfl, rfl, rfl⟩
  | cons first rest ih => exact ih

theorem container?_poisonAll (bindings : List Binding) (cause : Binding → LifetimeBreach)
    (span : Span) (id : ContainerId) :
    (state.poisonAll bindings cause span).state.container? id = state.container? id := by
  obtain ⟨-, -, containers⟩ := @poisonAll_unchanged state bindings cause span
  rw [container?, containers]
  rfl

/-- A binding that still has a referent was not among the poisoned ones. -/
theorem binding?_poisonAll {bindings : List Binding} {cause : Binding → LifetimeBreach}
    {span : Span} {id : BindingId} {binding : Binding}
    (found : (state.poisonAll bindings cause span).state.binding? id = some binding)
    (refers : binding.referent ≠ .poisoned) :
    state.binding? id = some binding ∧ ∀ poisoned ∈ bindings, poisoned.id ≠ id := by
  simp only [State.poisonAll] at found
  induction bindings generalizing state with
  | nil => exact ⟨found, by simp⟩
  | cons first rest ih =>
      obtain ⟨lookup, others⟩ := ih found
      change (state.modifyBinding first.id (·.poison)).binding? id = some binding at lookup
      rw [binding?_modifyBinding] at lookup
      split at lookup
      · obtain ⟨old, -, rfl⟩ := Option.map_eq_some_iff.mp lookup
        exact (refers rfl).elim
      · rename_i different
        refine ⟨lookup, ?_⟩
        intro poisoned member
        rcases List.mem_cons.mp member with rfl | later
        · exact Ne.symm different
        · exact others poisoned later

/-! ## Containers whose scope has exited -/

/-- Nothing but the liveness of containers and the referents of bindings differs. -/
structure Ends (state after : State) : Prop where
  scopes : after.scopes = state.scopes
  ledger : after.ledger = state.ledger
  container : ∀ id, (after.container? id).map ({ · with liveness := .live }) =
    (state.container? id).map ({ · with liveness := .live })

theorem Ends.refl (state : State) : state.Ends state := ⟨rfl, rfl, fun _ => rfl⟩

theorem Ends.trans {middle after : State} (first : state.Ends middle) (second : middle.Ends after) :
    state.Ends after where
  scopes := second.scopes.trans first.scopes
  ledger := second.ledger.trans first.ledger
  container := fun id => (second.container id).trans (first.container id)

theorem Ends.before {after : State} (ends : state.Ends after) {id : ContainerId}
    {container : Container} (found : after.container? id = some container) :
    ∃ old, state.container? id = some old ∧
      container = { old with liveness := container.liveness } := by
  have same := ends.container id
  rw [found] at same
  cases lookup : state.container? id with
  | none => simp [lookup] at same
  | some old =>
      simp only [lookup, Option.map_some, Option.some.injEq] at same
      refine ⟨old, rfl, ?_⟩
      cases container
      cases old
      simp_all

theorem Ends.after {after : State} (ends : state.Ends after) {id : ContainerId}
    {container : Container} (found : state.container? id = some container) :
    ∃ new, after.container? id = some new ∧ new = { container with liveness := new.liveness } := by
  have same := ends.container id
  rw [found] at same
  cases lookup : after.container? id with
  | none => simp [lookup] at same
  | some new =>
      simp only [lookup, Option.map_some, Option.some.injEq] at same
      refine ⟨new, rfl, ?_⟩
      cases container
      cases new
      simp_all

theorem modifyContainer_ends {id : ContainerId} {change : Container → Container}
    (keeps : ∀ container, { change container with liveness := .live } =
      { container with liveness := .live }) : state.Ends (state.modifyContainer id change) where
  scopes := rfl
  ledger := rfl
  container := by
    intro other
    rw [container?_modifyContainer]
    split
    · cases state.container? other <;> simp [keeps]
    · rfl

theorem poisonAll_ends (bindings : List Binding) (cause : Binding → LifetimeBreach) (span : Span) :
    state.Ends (state.poisonAll bindings cause span).state := by
  obtain ⟨scopes, ledger, -⟩ := @poisonAll_unchanged state bindings cause span
  refine ⟨scopes, ledger, ?_⟩
  intro id
  rw [container?_poisonAll]

theorem destroy_ends (container : Container) (span : Span) :
    state.Ends (state.destroy container span).state := by
  have marked : state.Ends (state.modifyContainer container.id fun container =>
      { container with liveness := .destroyed span }) := modifyContainer_ends fun _ => rfl
  exact marked.trans (poisonAll_ends ..)

theorem endContainer_ends (id : ContainerId) (span : Span) :
    state.Ends (state.endContainer id span).state := by
  unfold endContainer
  split
  · exact .refl state
  · split
    · exact .refl state
    · split
      · exact destroy_ends ..
      · exact modifyContainer_ends fun _ => rfl
      · exact ⟨rfl, rfl, fun _ => rfl⟩

/-- A scope that is no longer open, and whose containers nobody borrows. -/
structure Vacated (state : State) (scope : ScopeId) : Prop where
  closed : scope ∉ state.scopes.path
  unborrowed : ∀ record ∈ state.ledger.records, ∀ {container},
    state.container? record.container = some container → container.scope ≠ scope

theorem Vacated.of_ends {after : State} {scope : ScopeId} (vacated : state.Vacated scope)
    (ends : state.Ends after) : after.Vacated scope where
  closed := by
    rw [ends.scopes]
    exact vacated.closed
  unborrowed := by
    intro record member container found
    obtain ⟨old, lookup, same⟩ := ends.before found
    have inScope : container.scope = old.scope := by rw [same]
    rw [inScope]
    exact vacated.unborrowed record (ends.ledger ▸ member) lookup

theorem Sound.destroy (sound : state.Sound) {container : Container} (span : Span)
    (vacated : state.Vacated container.scope)
    (found : state.container? container.id = some container) :
    (state.destroy container span).state.Sound := by
  simp only [State.destroy, poisonAll_modifyContainer]
  generalize dangling : List.filter _ _ = bindings
  generalize (fun binding : Binding =>
    LifetimeBreach.dangling binding.name container.name) = cause
  have ends : state.Ends (state.poisonAll bindings cause span).state := poisonAll_ends ..
  have sameContainer : (state.poisonAll bindings cause span).state.container? container.id =
      some container := (container?_poisonAll ..).trans found
  apply (sound.poisonAll bindings cause span).modifyContainer
  · intro old _
    exact ⟨rfl, rfl, rfl⟩
  · intro old record lookup member onContainer
    have scope := (vacated.of_ends ends).unborrowed record member (onContainer ▸ sameContainer)
    exact (scope rfl).elim
  · intro old lookup _
    have same : old = container := Option.some.inj (lookup.symm.trans sameContainer)
    rw [same, ends.scopes]
    refine ⟨vacated.closed, ?_⟩
    -- A binding that refers to the container and survives would have been poisoned.
    intro other binding bound opened referent
    obtain ⟨before, apart⟩ := binding?_poisonAll bound (by simp [referent])
    apply apart binding _ (sound.binding_id before)
    rw [← dangling, List.mem_filter, liveBindings, List.mem_filter]
    refine ⟨⟨List.mem_of_getElem? before, ?_⟩, by simp [referent]⟩
    exact sound.scopes.isOpen_iff.mpr opened

theorem Sound.endContainer (sound : state.Sound) {scope : ScopeId} {id : ContainerId} (span : Span)
    (vacated : state.Vacated scope)
    (declared : ∃ container, state.container? id = some container ∧ container.scope = scope) :
    (state.endContainer id span).state.Sound := by
  obtain ⟨container, found, rfl⟩ := declared
  have sameId := sound.container_id found
  simp only [State.endContainer, found]
  split
  · exact sound
  · split
    · exact sound.destroy span vacated (sameId ▸ found)
    · apply sound.modifyContainer
      · intro old _
        exact ⟨rfl, rfl, rfl⟩
      · intro old record lookup member onContainer
        exact (vacated.unborrowed record member (onContainer ▸ found) rfl).elim
      · intro old _ destroyed
        exact absurd destroyed (by simp [Container.isDestroyed])
    · exact sound.setDeferred _

/-- The containers of a scope come to their ends one after another. -/
theorem endContainers_cons (id : ContainerId) (rest : List ContainerId) (span : Span) :
    state.endContainers (id :: rest) span =
      ⟨((state.endContainer id span).state.endContainers rest span).state,
        (state.endContainer id span).reports ++
          ((state.endContainer id span).state.endContainers rest span).reports⟩ := by
  -- The reports so far only stand in front of those that follow.
  have prepend : ∀ (ids : List ContainerId) (state : State) (reports : List Diagnostic),
      ids.foldl (fun closing id => Closing.mk (closing.state.endContainer id span).state
        (closing.reports ++ (closing.state.endContainer id span).reports)) ⟨state, reports⟩ =
      ⟨(state.endContainers ids span).state,
        reports ++ (state.endContainers ids span).reports⟩ := by
    intro ids
    induction ids with
    | nil => simp [State.endContainers]
    | cons id rest ih =>
        intro state reports
        have first : state.endContainers (id :: rest) span = _ := ih _ _
        rw [List.foldl_cons, ih, first]
        simp
  exact prepend rest _ _

theorem endContainers_ends (ids : List ContainerId) (span : Span) :
    state.Ends (state.endContainers ids span).state := by
  induction ids generalizing state with
  | nil => exact .refl state
  | cons id rest ih =>
      rw [endContainers_cons]
      exact (endContainer_ends id span).trans ih

theorem Sound.endContainers (sound : state.Sound) {scope : ScopeId} (span : Span)
    {ids : List ContainerId} (vacated : state.Vacated scope)
    (declared : ∀ id ∈ ids, ∃ container, state.container? id = some container ∧
      container.scope = scope) : (state.endContainers ids span).state.Sound := by
  induction ids generalizing state with
  | nil => exact sound
  | cons id rest ih =>
      rw [endContainers_cons]
      have ends : state.Ends (state.endContainer id span).state := endContainer_ends ..
      apply ih (sound.endContainer span vacated (declared id (by simp))) (vacated.of_ends ends)
      intro other member
      obtain ⟨container, found, inScope⟩ := declared other (List.mem_cons_of_mem _ member)
      obtain ⟨new, lookup, same⟩ := ends.after found
      exact ⟨new, lookup, by rw [same]; exact inScope⟩

/-- Whether a finding is about a binding whose container is gone. -/
def IsDangling (diagnostic : Diagnostic) : Prop :=
  ∃ binding container, diagnostic.violation = .lifetime (.dangling binding container)

theorem endContainer_reports (id : ContainerId) (span : Span) :
    ∀ diagnostic ∈ (state.endContainer id span).reports, IsDangling diagnostic := by
  intro diagnostic member
  unfold State.endContainer at member
  split at member
  · simp at member
  · rename_i container _
    split at member
    · simp at member
    · split at member
      · obtain ⟨binding, -, rfl⟩ := List.mem_map.mp member
        exact ⟨binding.name, container.name, rfl⟩
      · simp at member
      · simp at member

theorem endContainers_reports (ids : List ContainerId) (span : Span) :
    ∀ diagnostic ∈ (state.endContainers ids span).reports, IsDangling diagnostic := by
  induction ids generalizing state with
  | nil => simp [State.endContainers]
  | cons id rest ih =>
      rw [endContainers_cons]
      intro diagnostic member
      rcases List.mem_append.mp member with first | later
      · exact endContainer_reports id span diagnostic first
      · exact ih diagnostic later

/-! ## The exit itself -/

/-- Without its innermost scope and the borrows that it owns, a state is sound, and nobody borrows
from the scope. -/
theorem Sound.leave (sound : state.Sound) {scope : ScopeId} {scopes : ScopeTree}
    (exits : state.scopes.exit? = some (scope, scopes)) :
    { state with scopes, ledger := (state.ledger.releaseScope scope).2 }.Sound ∧
      { state with scopes, ledger := (state.ledger.releaseScope scope).2 }.Vacated scope := by
  obtain ⟨path, -, sizes⟩ := ScopeTree.exit?_eq_some exits
  have after := ScopeTree.exit?_wellFormed sound.scopes exits
  have encloses := ScopeTree.encloses_congr (ScopeTree.parent?_exit exits)
  have left : scope ∉ scopes.path := by
    have nodup := sound.scopes.path_nodup
    rw [path] at nodup
    exact (List.nodup_cons.mp nodup).1
  have survives : ∀ {id}, id ∈ scopes.path → id ∈ state.scopes.path := by
    intro id opened
    rw [path]
    exact List.mem_cons_of_mem _ opened
  have size : scopes.scopes.length = state.scopes.scopes.length := by
    rw [sizes]
    simp [ScopeTree.close, ScopeTree.modify]
  have tables : ∀ {id found}, scopes.get? id = some found → ∃ old,
      state.scopes.get? id = some old ∧ found.containers = old.containers ∧
        found.bindings = old.bindings ∧ found.declared = old.declared := by
    intro id found lookup
    rw [ScopeTree.get?_exit exits] at lookup
    split at lookup
    · obtain ⟨old, oldLookup, rfl⟩ := Option.map_eq_some_iff.mp lookup
      exact ⟨old, oldLookup, rfl, rfl, rfl⟩
    · exact ⟨found, lookup, rfl, rfl, rfl⟩
  have remains : ∀ {record}, record ∈ (state.ledger.releaseScope scope).2.records →
      record ∈ state.ledger.records ∧ record.scope ≠ scope :=
    (Ledger.mem_records_releaseScope sound.ledger).mp
  refine ⟨?_, left, ?_⟩
  · constructor
    case toIndexed =>
      constructor
      case container_id => exact sound.container_id
      case container_scope =>
        intro id container found
        exact size ▸ sound.container_scope found
      case binding_id => exact sound.binding_id
      case binding_scope =>
        intro id binding found
        exact size ▸ sound.binding_scope found
      case container_named =>
        intro id found name container lookup named
        obtain ⟨old, oldLookup, same, -, -⟩ := tables lookup
        exact sound.container_named oldLookup (same ▸ named)
      case container_declared =>
        intro id found container lookup declared
        obtain ⟨old, oldLookup, -, -, same⟩ := tables lookup
        exact sound.container_declared oldLookup (same ▸ declared)
      case binding_named =>
        intro id found name binding lookup named
        obtain ⟨old, oldLookup, -, same, -⟩ := tables lookup
        exact sound.binding_named oldLookup (same ▸ named)
    case scopes => exact after
    case ledger => exact Ledger.releaseScope_wellFormed sound.ledger scope
    case backed =>
      intro record member
      obtain ⟨old, other⟩ := remains member
      obtain ⟨container, backs⟩ := sound.backed record old
      refine ⟨container, { backs with opened := ?_, nested := ?_ }⟩
      · have opened := backs.opened
        rw [path] at opened
        exact (List.mem_cons.mp opened).resolve_left other
      · intro opened
        exact (encloses _ _).mpr (backs.nested (survives opened))
    case destroyed =>
      intro id container found destroyed opened
      exact sound.destroyed found destroyed (survives opened)
    case grounded =>
      intro id binding found opened
      have grounds := sound.grounded found (survives opened)
      cases referent : binding.referent with
      | direct container =>
          rw [referent] at grounds
          exact grounds
      | view id =>
          rw [referent] at grounds
          obtain ⟨record, member, sameId, enclosing⟩ := grounds
          have enclosing := (encloses _ _).mpr enclosing
          -- What encloses a scope that is still open has not exited.
          have other : record.scope ≠ scope := by
            intro same
            exact left (same ▸ enclosing.mem_path after opened)
          exact ⟨record, (Ledger.mem_records_releaseScope sound.ledger).mpr ⟨member, other⟩,
            sameId, enclosing⟩
      | poisoned => trivial
  · intro record member container found inScope
    obtain ⟨old, other⟩ := remains member
    have backs : state.Backs record container := sound.backs old found
    have wasOpen : container.scope ∈ state.scopes.path := by simp [inScope, path]
    have enclosing := (encloses _ _).mpr (backs.nested wasOpen)
    have opened : record.scope ∈ scopes.path := by
      have opened := backs.opened
      rw [path] at opened
      exact (List.mem_cons.mp opened).resolve_left other
    exact left (inScope ▸ enclosing.mem_path after opened)

/-- What an exit does: the innermost scope leaves the path, its borrows end, and then only the
lives of its containers and the referents of some bindings change.  No view is left behind. -/
theorem Sound.exitScope? (sound : state.Sound) {span : Span} {closing : Closing}
    (exits : state.exitScope? span = some closing) :
    closing.state.Sound ∧ (∀ diagnostic ∈ closing.reports, IsDangling diagnostic) ∧
      ∃ scope scopes, state.scopes.exit? = some (scope, scopes) ∧
        { state with
          scopes
          ledger := (state.ledger.releaseScope scope).2 }.Ends closing.state := by
  simp only [State.exitScope?, Option.map_eq_some_iff, Prod.exists] at exits
  obtain ⟨scope, scopes, leaves, rfl⟩ := exits
  obtain ⟨base, vacated⟩ := sound.leave leaves
  generalize left : ({ state with scopes, ledger := (state.ledger.releaseScope scope).2 } : State) =
    middle at base vacated
  generalize ids : ((scopes.get? scope).map (·.declared)).getD [] = declared
  have owned : ∀ id ∈ declared, ∃ container, middle.container? id = some container ∧
      container.scope = scope := by
    intro id member
    rw [← ids] at member
    cases found : scopes.get? scope with
    | none => simp [found] at member
    | some exited =>
        rw [found] at member
        exact base.container_declared (left ▸ found) member
  have ends : middle.Ends (middle.endContainers declared span).state := endContainers_ends ..
  have ended := base.endContainers span vacated owned
  have unseen : (middle.endContainers declared span).state.viewsOn
      (state.ledger.releaseScope scope).1 = [] := by
    rw [viewsOn, List.filter_eq_nil_iff]
    intro binding live views
    obtain ⟨record, released, referent⟩ := List.any_eq_true.mp views
    obtain ⟨member, inScope⟩ := Ledger.scope_of_released sound.ledger released
    rw [liveBindings, List.mem_filter] at live
    obtain ⟨index, found⟩ := List.mem_iff_getElem?.mp live.1
    have opened := ended.scopes.isOpen_iff.mp live.2
    have grounds := @Sound.grounded _ ended ⟨index⟩ binding found opened
    rw [of_decide_eq_true referent] at grounds
    obtain ⟨other, otherMember, sameId, -⟩ := grounds
    rw [ends.ledger, ← left] at otherMember
    obtain ⟨otherOld, apart⟩ := (Ledger.mem_records_releaseScope sound.ledger).mp otherMember
    exact apart (sound.ledger.eq_of_id_eq otherOld member sameId ▸ inScope)
  have closes : ({ state with scopes }.closeScope scope span) =
      ⟨(middle.endContainers declared span).state,
        (middle.endContainers declared span).reports⟩ := by
    simp only [closeScope, left, ids, unseen]
    simp [State.poisonAll]
  rw [closes]
  exact ⟨ended, endContainers_reports declared span, scope, scopes, leaves, left ▸ ends⟩

end Custody.State
