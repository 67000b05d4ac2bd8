import Custody.Proofs.Endings

/-!
# Containers that were moved away

Every operation that uses a container, as what it binds a name to or as what one of its bindings
reaches, checks that the container still has its content.  So a container that was moved away is
never used again, however the run goes on, and a declaration of its name makes another container.
-/

namespace Custody

/-! ## What operations use -/

/-- The bindings whose containers an operation uses. -/
def Operation.uses : Operation → List String
  | .push binding (.value _) _ _ => [binding]
  | .push binding (.transfer source _) _ _ => [binding, source]
  | .pop binding _ => [binding]
  | .peek binding _ => [binding]
  | .borrow _ source _ _ => [source]
  | .capture _ source => [source]
  | .release binding => [binding]
  | .spawn captures => captures.map (·.binding)
  | _ => []

namespace State

/-- The containers that an operation uses: the one that it binds a name to, or those that the
bindings it acts through reach. -/
def used (state : State) : Operation → List ContainerId
  | .bind _ container _ => (state.scopes.findContainer? container).toList
  | operation => operation.uses.filterMap fun name => (state.reach? name).map (·.container.id)

variable {state : State} {name : String} {span : Span} {access : Access}

/-- A view is never left on a container that was moved away. -/
theorem Reaches.unmoved_of_view (sound : state.Sound) (reaches : state.Reaches access)
    {record : BorrowRecord} (viewed : access.view = some record) :
    access.container.movedAt = none := by
  obtain ⟨-, active, onContainer⟩ := reaches.view viewed
  exact (sound.backs active (onContainer ▸ reaches.container)).unmoved

/-- What an operation on what a name reaches has checked when it is accepted. -/
theorem withAccess_checked (holds : Access → Prop) {operate : Access → Except Diagnostic Outcome}
    (accepted : (state.settle (state.withAccess name span operate)).verdict.ok = true)
    (checks : ∀ {access outcome}, operate access = .ok outcome → holds access)
    (reached : state.reach? name = some access) : holds access := by
  obtain ⟨other, found, result⟩ := withAccess_accepted accepted
  rw [Option.some.inj (reached.symm.trans (access_eq_ok_iff.mp found))]
  exact checks result

/-- An operation on what a name reaches that begins with the check of the container. -/
theorem withAccess_unmoved {operate : Access → Except Diagnostic Outcome}
    (accepted : (state.settle (state.withAccess name span operate)).verdict.ok = true)
    (checks : ∀ {access outcome}, operate access = .ok outcome →
      access.container.ensureUsable span = .ok ())
    (reached : state.reach? name = some access) : access.container.movedAt = none :=
  (Container.ensureUsable_eq_ok
    (withAccess_checked (·.container.ensureUsable span = .ok ()) accepted checks reached)).1

/-! ## Accepted operations -/

theorem pushValue_unmoved {value : Value} {key : Option Value} {conversion : Option Conversion}
    (accepted : (state.settle
      (state.pushValue name value key conversion span)).verdict.ok = true)
    (reached : state.reach? name = some access) : access.container.movedAt = none := by
  refine withAccess_unmoved accepted ?_ reached
  intro access outcome passed
  simp only [Check.bind_eq_ok] at passed
  obtain ⟨_, writable, -⟩ := passed
  exact (Access.ensureWritable_eq_ok writable).1

theorem pop_unmoved {extent : Option Extent}
    (accepted : (state.settle (state.pop name extent span)).verdict.ok = true)
    (reached : state.reach? name = some access) : access.container.movedAt = none := by
  refine withAccess_unmoved accepted ?_ reached
  intro access outcome passed
  simp only [Check.bind_eq_ok] at passed
  obtain ⟨removed, checked, -⟩ := passed
  exact (Access.checkPop_writable checked).1

theorem peek_unmoved {extent : Option Extent}
    (accepted : (state.settle (state.peek name extent span)).verdict.ok = true)
    (reached : state.reach? name = some access) : access.container.movedAt = none := by
  refine withAccess_unmoved accepted ?_ reached
  intro access outcome passed
  simp only [Access.checkPeek, Check.bind_eq_ok] at passed
  obtain ⟨slots, ⟨_, usable, -⟩, -⟩ := passed
  exact usable

theorem release_unmoved (accepted : (state.settle (state.release name span)).verdict.ok = true)
    (reached : state.reach? name = some access) : access.container.movedAt = none := by
  refine withAccess_unmoved accepted ?_ reached
  intro access outcome passed
  simp only [Check.bind_eq_ok] at passed
  obtain ⟨_, usable, -⟩ := passed
  exact usable

theorem bind_unmoved {container : String} {perspective : Option Perspective}
    (accepted : (state.settle (state.bind name container perspective span)).verdict.ok = true)
    {id : ContainerId} (named : state.scopes.findContainer? container = some id) :
    state.Unmoved id := by
  obtain ⟨outcome, result, accepted⟩ := settle_accepted accepted
  simp only [State.bind, Check.bind_eq_ok] at result
  obtain ⟨_, -, result⟩ := result
  cases checked : state.checkBind container perspective span with
  | error diagnostic =>
      simp only [checked, declarePoisoned, Check.bind_eq_ok, Check.pure_eq_ok] at result
      obtain ⟨_, -, rfl⟩ := result
      contradiction
  | ok found =>
      simp only [checkBind, Check.bind_eq_ok] at checked
      obtain ⟨there, lookup, _, usable, -⟩ := checked
      intro other otherFound
      rw [lookupContainer, named, Option.bind_some, otherFound] at lookup
      rw [Except.ok.inj lookup]
      exact (Container.ensureUsable_eq_ok usable).1

/-- An accepted borrow has checked what its source reaches. -/
theorem borrow_checked {source : String} {extent : Extent} {mode : BorrowMode}
    (accepted : (state.settle (state.borrow name source extent mode span)).verdict.ok = true)
    (reached : state.reach? source = some access) :
    ∃ region, state.checkBorrow access extent mode span = .ok region := by
  obtain ⟨outcome, result, accepted⟩ := settle_accepted accepted
  simp only [State.borrow, Check.bind_eq_ok] at result
  obtain ⟨_, -, result⟩ := result
  cases tried : state.tryBorrow source extent mode span with
  | error diagnostic =>
      simp only [tried, declarePoisoned, Check.bind_eq_ok, Check.pure_eq_ok] at result
      obtain ⟨_, -, rfl⟩ := result
      contradiction
  | ok taken =>
      simp only [tryBorrow, access_eq_ok_iff.mpr reached, Check.bind_eq_ok, Except.ok.injEq]
        at tried
      obtain ⟨_, rfl, tried⟩ := tried
      rw [Check.bind_eq_ok] at tried
      obtain ⟨region, checked, -⟩ := tried
      exact ⟨region, checked⟩

theorem borrow_unmoved {source : String} {extent : Extent} {mode : BorrowMode}
    (accepted : (state.settle (state.borrow name source extent mode span)).verdict.ok = true)
    (reached : state.reach? source = some access) : access.container.movedAt = none := by
  obtain ⟨region, checked⟩ := borrow_checked accepted reached
  exact (Container.ensureUsable_eq_ok (checkBorrow_eq_ok checked).1).1

theorem transfer_unmoved {source : String} {effect : Effect} {key : Option Value}
    {conversion : Option Conversion}
    (accepted : (state.settle
      (state.transfer name source effect key conversion span)).verdict.ok = true) :
    (∀ {access}, state.reach? name = some access → access.container.movedAt = none) ∧
      ∀ {access}, state.reach? source = some access → access.container.movedAt = none := by
  obtain ⟨into, origin, transfer, -, -, toTarget, fromSource, checked, -, -⟩ :=
    transfer_accepted accepted
  obtain ⟨-, -, -, sourcePassed, -, targetPassed⟩ := checkTransfer_eq_ok checked
  constructor
  · intro access reached
    rw [Option.some.inj (reached.symm.trans (access_eq_ok_iff.mp toTarget))]
    exact (Container.ensureUsable_eq_ok (Access.checkTarget_writable targetPassed).1).1
  · intro access reached
    rw [Option.some.inj (reached.symm.trans (access_eq_ok_iff.mp fromSource))]
    exact (Container.ensureUsable_eq_ok (Access.checkSource_eq_ok sourcePassed).1).1

theorem capture_unmoved (sound : state.Sound) {source : String}
    (accepted : (state.settle (state.capture name source span)).verdict.ok = true)
    (reached : state.reach? source = some access) : access.container.movedAt = none := by
  obtain ⟨reaches, lookup, -⟩ := sound.reach reached span
  cases viewed : access.view with
  | some record => exact reaches.unmoved_of_view sound viewed
  | none =>
      obtain ⟨outcome, result, accepted⟩ := settle_accepted accepted
      simp only [capture, lookup, Check.bind_eq_ok, Except.ok.injEq] at result
      obtain ⟨target, -, origin, rfl, result⟩ := result
      split at result
      · rw [Check.pure_eq_ok] at result
        rw [← result] at accepted
        contradiction
      · simp only [checkCapture, reaches.direct viewed, reaches.container, Check.bind_eq_ok]
          at result
        obtain ⟨_, ⟨_, usable, -⟩, -⟩ := result
        exact (Container.ensureUsable_eq_ok usable).1

theorem checkTaskCapture_unmoved (sound : state.Sound) {capture : Capture}
    {moved : Option ContainerId} (passed : state.checkTaskCapture capture span = .ok moved)
    (reached : state.reach? capture.binding = some access) : access.container.movedAt = none := by
  obtain ⟨reaches, lookup, there⟩ := sound.reach reached span
  obtain ⟨binding, container, view⟩ := access
  cases view with
  | some record => exact reaches.unmoved_of_view sound rfl
  | none =>
      simp only [checkTaskCapture, lookup, Check.bind_eq_ok, Except.ok.injEq] at passed
      obtain ⟨_, rfl, passed⟩ := passed
      dsimp only at there
      rw [there] at passed
      simp only [Check.bind_eq_ok] at passed
      obtain ⟨_, usable, -⟩ := passed
      exact (Container.ensureUsable_eq_ok usable).1

theorem spawn_unmoved (sound : state.Sound) {captures : List Capture}
    (accepted : (state.spawn captures span).verdict.ok = true) {capture : Capture}
    (member : capture ∈ captures) (reached : state.reach? capture.binding = some access) :
    access.container.movedAt = none := by
  simp only [spawn] at accepted
  split at accepted
  · rename_i passed
    rw [List.isEmpty_iff, failures, List.filterMap_eq_nil_iff] at passed
    have checked := passed _ (List.mem_map_of_mem member)
    cases result : state.checkTaskCapture capture span with
    | error diagnostic =>
        rw [result] at checked
        contradiction
    | ok moved => exact checkTaskCapture_unmoved sound result reached
  · contradiction

/-- Accepted operations use only containers that have their content. -/
theorem unmoved_of_accepted (sound : state.Sound) {operation : Operation}
    (accepted : (state.perform operation span).verdict.ok = true) {id : ContainerId}
    (used : id ∈ state.used operation) : state.Unmoved id := by
  have unmoved : ∀ {name}, (∀ {access}, state.reach? name = some access →
      access.container.movedAt = none) → (state.reach? name).map (·.container.id) = some id →
      state.Unmoved id := by
    intro name checked found container there
    obtain ⟨access, reached, rfl⟩ := Option.map_eq_some_iff.mp found
    obtain ⟨reaches, -, -⟩ := sound.reach reached span
    rw [Option.some.inj (there.symm.trans reaches.container)]
    exact checked reached
  cases operation with
  | bind binding container perspective =>
      exact bind_unmoved accepted (Option.mem_toList.mp used)
  | push binding operand key conversion =>
      obtain ⟨name, named, found⟩ := List.mem_filterMap.mp used
      cases operand with
      | value literal =>
          rw [List.mem_singleton.mp named] at found
          exact unmoved (pushValue_unmoved accepted) found
      | transfer source effect =>
          obtain ⟨target, origin⟩ := transfer_unmoved accepted
          cases List.mem_pair.mp named with
          | inl isTarget => exact unmoved target (isTarget ▸ found)
          | inr isSource => exact unmoved origin (isSource ▸ found)
  | pop binding extent =>
      obtain ⟨name, named, found⟩ := List.mem_filterMap.mp used
      rw [List.mem_singleton.mp named] at found
      exact unmoved (pop_unmoved accepted) found
  | peek binding extent =>
      obtain ⟨name, named, found⟩ := List.mem_filterMap.mp used
      rw [List.mem_singleton.mp named] at found
      exact unmoved (peek_unmoved accepted) found
  | borrow binding source extent mode =>
      obtain ⟨name, named, found⟩ := List.mem_filterMap.mp used
      rw [List.mem_singleton.mp named] at found
      exact unmoved (borrow_unmoved accepted) found
  | capture target source =>
      obtain ⟨name, named, found⟩ := List.mem_filterMap.mp used
      rw [List.mem_singleton.mp named] at found
      exact unmoved (capture_unmoved sound accepted) found
  | release binding =>
      obtain ⟨name, named, found⟩ := List.mem_filterMap.mp used
      rw [List.mem_singleton.mp named] at found
      exact unmoved (release_unmoved accepted) found
  | spawn captures =>
      obtain ⟨name, named, found⟩ := List.mem_filterMap.mp used
      obtain ⟨capture, member, rfl⟩ := List.mem_map.mp named
      exact unmoved (spawn_unmoved sound accepted member) found
  | declare | setPerspective | flip | choose | enterScope | exitScope =>
      exact (List.not_mem_nil used).elim

/-! ## Names that are declared again -/

/-- A name may be declared again exactly once what it means in the scope was moved away. -/
theorem declare_accepted_iff {element : Element} {key : Option Element} {mode : Mode} :
    (state.perform (.declare name element key mode) span).verdict.ok = true ↔
      ∀ holder, state.declaredHere? name = some holder → holder.isMoved = true := by
  rw [perform, State.declare, register]
  cases state.declaredHere? name with
  | none =>
      constructor
      · intro _ holder absent
        contradiction
      · intro _
        rfl
  | some holder =>
      dsimp only
      cases moved : holder.isMoved with
      | true =>
          constructor
          · intro _ other same
            rw [← Option.some.inj same]
            exact moved
          · intro _
            rfl
      | false =>
          constructor
          · intro accepted
            exact absurd accepted Bool.false_ne_true
          · intro every
            have contrary := every holder rfl
            rw [moved] at contrary
            contradiction

/-- An accepted declaration makes a container that was not there. -/
theorem declare_fresh (sound : state.Sound) {element : Element} {key : Option Element} {mode : Mode}
    (accepted : (state.perform (.declare name element key mode) span).verdict.ok = true) :
    ∃ id, state.container? id = none ∧
      (state.perform (.declare name element key mode) span).state.declaredHere? name =
        some { id, name, element, key, mode, scope := state.scopes.current, span } := by
  obtain ⟨outcome, result, -⟩ := settle_accepted accepted
  have performed : state.perform (.declare name element key mode) span = outcome := by
    rw [perform, result]
    rfl
  simp only [State.declare, Check.bind_eq_ok, Check.pure_eq_ok] at result
  obtain ⟨⟨fresh, after⟩, declared, rfl⟩ := result
  obtain ⟨new, rfl⟩ := register_eq_ok declared
  rw [performed]
  have inside := ScopeTree.lt_of_mem_path sound.scopes sound.scopes.current_mem
  refine ⟨⟨state.containers.length⟩, List.getElem?_eq_none (Nat.le_refl _), ?_⟩
  rw [← new, declaredHere?, ScopeTree.currentScope?]
  change (((state.scopes.modify state.scopes.current _).get? state.scopes.current).bind _).bind _ =
    _
  rw [ScopeTree.get?_modify, if_pos rfl, ScopeTree.get?, List.getElem?_eq_getElem inside]
  simp only [Option.map_some, Option.bind_some, Table.get?_insert, ↓reduceIte]
  have newId : fresh.id = ⟨state.containers.length⟩ := by rw [new]
  rw [container?, newId]
  exact List.getElem?_concat_length

/-! ## Whole runs -/

/-- A container that was moved away for good: it holds nothing, and nobody borrows it. -/
structure Consumed (state : State) (id : ContainerId) (container : Container) : Prop where
  found : state.container? id = some container
  moved : container.isMoved = true
  emptied : container.content = []
  unborrowed : ∀ record ∈ state.ledger.records, record.container ≠ id

theorem Regulated.consumed (regulated : state.Regulated) {id : ContainerId} {container : Container}
    (found : state.container? id = some container) (moved : container.isMoved = true) :
    state.Consumed id container where
  found := found
  moved := moved
  emptied := (regulated.accounted.regular found).emptied moved
  unborrowed := by
    intro record active onContainer
    have unmoved := (regulated.sound.backs active (onContainer ▸ found)).unmoved
    rw [Container.isMoved, unmoved] at moved
    contradiction

theorem Retains.consumed {after : State} (retains : state.Retains after) {id : ContainerId}
    {container : Container} (found : state.container? id = some container)
    (moved : container.isMoved = true) : after.container? id = some container := by
  obtain ⟨later, there, becomes⟩ := retains.kept found
  rw [becomes.moved moved] at there
  exact there

/-- What was moved away stays so while what is left open is closed. -/
theorem Consumed.closing (regulated : state.Regulated) {id : ContainerId} {container : Container}
    (consumed : state.Consumed id container) :
    ∀ after ∈ state.closingStates span, after.Consumed id container := by
  obtain ⟨inner, root, rfl, rfl, ends, closes, closed⟩ := closeAll_closed regulated span
  have exited : ∀ count, (exitAll count state span).state.Consumed id container := by
    intro count
    obtain ⟨retains, after⟩ := exitAll_retains regulated count span
    exact after.consumed (retains.consumed consumed.found consumed.moved) consumed.moved
  have unborrowed : ∀ {after : State}, after.ledger.records = [] →
      after.container? id = some container → after.Consumed id container := by
    intro after empty found
    refine ⟨found, consumed.moved, consumed.emptied, ?_⟩
    rw [empty]
    exact fun _ member => absurd member List.not_mem_nil
  intro after member
  rw [closingStates, List.mem_append, List.mem_pair] at member
  rcases member with during | atRoot | atEnd
  · obtain ⟨count, -, rfl⟩ := List.mem_map.mp during
    exact exited count
  · rw [atRoot]
    exact unborrowed closed.ledger (closes.consumed (exited _).found consumed.moved)
  · have found := closes.consumed (exited _).found consumed.moved
    rw [atEnd, ends]
    apply unborrowed
    · rw [(tearDown_unchanged span).2]
      exact closed.ledger
    · exact ((tearDown_evolves closed.accounted span).retains closed.accounted).consumed found
        consumed.moved

end State

namespace Verification

/-- What is moved away is moved away for ever.  However a run goes on, the container stays exactly
as it is, without content and without a borrow, also while what is left open is closed.  No
operation that uses it is accepted.  Its name may be declared again exactly when what the name means
in the current scope was moved away; that makes a container which was not there before, and changes
nothing about this one. -/
theorem moved_stays_moved (before after : List Node) {id : ContainerId} {container : Container}
    (found : (run {} before).state.container? id = some container)
    (moved : container.isMoved = true) :
    let later := (run {} (before ++ after)).state
    later.Consumed id container ∧
      (∀ state ∈ later.closingStates (run {} (before ++ after)).last,
        state.Consumed id container) ∧
      (∀ operation span, id ∈ later.used operation →
        (later.perform operation span).verdict.ok = false) ∧
      ∀ element key mode span,
        let declared := later.perform (.declare container.name element key mode) span
        declared.state.Consumed id container ∧
          (declared.verdict.ok = true ↔ ∀ holder,
            later.declaredHere? container.name = some holder → holder.isMoved = true) ∧
          (declared.verdict.ok = true → ∃ other ≠ id, later.container? other = none ∧
            declared.state.declaredHere? container.name =
              some ⟨other, container.name, element, key, mode, later.scopes.current, span, none,
                .live, []⟩) := by
  intro later
  have regulated : later.Regulated := run_regulated (before ++ after)
  have there : later.container? id = some container :=
    (run_retains before after).consumed found moved
  have consumed := regulated.consumed there moved
  refine ⟨consumed, consumed.closing regulated, ?_, ?_⟩
  · intro operation span used
    by_contra accepted
    rw [Bool.not_eq_false] at accepted
    have unmoved := State.unmoved_of_accepted regulated.sound accepted used container there
    rw [Container.isMoved, unmoved] at moved
    contradiction
  · intro element key mode span
    refine ⟨?_, State.declare_accepted_iff, ?_⟩
    · obtain ⟨retains, next⟩ := (State.perform_changes regulated.sound
        (.declare container.name element key mode) span).retains regulated
      exact next.consumed (retains.consumed there moved) moved
    · intro accepted
      obtain ⟨other, absent, declared⟩ := State.declare_fresh regulated.sound accepted
      refine ⟨other, ?_, absent, declared⟩
      rintro rfl
      cases there.symm.trans absent

/-- A run that takes the content of one container into another. -/
def takenAway : List Node :=
  [⟨.declare "old" .integer none .owned, {}⟩,
    ⟨.bind "from" "old" none, {}⟩,
    ⟨.push "from" (.value (.integer 1)) none none, {}⟩,
    ⟨.declare "new" .integer none .owned, {}⟩,
    ⟨.bind "into" "new" none, {}⟩,
    ⟨.push "into" (.transfer "from" .take) none none, {}⟩]

/-- The taken container gets nothing back from the other one, and its name may be declared again. -/
theorem moved_stays_moved_taken :
    ∃ container, (run {} takenAway).state.container? ⟨0⟩ = some container ∧
      container.isMoved = true ∧ (run {} takenAway).state.Consumed ⟨0⟩ container ∧
      ⟨0⟩ ∈ (run {} takenAway).state.used (.push "from" (.transfer "into" .move) none none) ∧
      ((run {} takenAway).state.perform (.push "from" (.transfer "into" .move) none none)
        {}).verdict.ok = false ∧
      container.name = "old" ∧
      ((run {} takenAway).state.perform (.declare "old" .string none .shared) {}).verdict.ok =
        true ∧
      ∃ other ≠ ⟨0⟩, (run {} takenAway).state.container? other = none ∧
        ((run {} takenAway).state.perform (.declare "old" .string none .shared)
          {}).state.declaredHere? "old" =
          some ⟨other, "old", .string, none, .shared, .global, {}, none, .live, []⟩ := by
  obtain ⟨container, found, moved, named⟩ : ∃ container,
      (run {} takenAway).state.container? ⟨0⟩ = some container ∧ container.isMoved = true ∧
        container.name = "old" := ⟨_, rfl, rfl, rfl⟩
  have used : ⟨0⟩ ∈ (run {} takenAway).state.used
      (.push "from" (.transfer "into" .move) none none) := by decide
  have accepted : ((run {} takenAway).state.perform (.declare "old" .string none .shared)
      {}).verdict.ok = true := by decide
  obtain ⟨consumed, -, refuses, declares⟩ := moved_stays_moved takenAway [] found moved
  rw [List.append_nil] at consumed refuses declares
  rw [named] at declares
  exact ⟨container, found, moved, consumed, used, refuses _ _ used, named, accepted,
    (declares .string none .shared {}).2.2 accepted⟩

end Verification

end Custody
