import Custody.Proofs.Lifetimes

/-!
# References and the scopes of their containers

Borrows are created in two ways.  A borrow operation checks that the scope of the container encloses
the current one, so its borrow never outlives the container.  A push of a reference makes no such
check.  A container that is not shared can only lend while its scope is open, and it keeps its data
as long as a target that is not shared and whose scope was opened no earlier.  References to shared
containers, into shared containers and into containers of outer scopes are accepted as well; they may
be left pointing into a scope that is closed.
-/

namespace Custody

namespace State

variable {state after : State} {span : Span}

/-! ## Active borrows -/

theorem Backs.outlives_iff_isOpen (sound : state.Sound) {record : BorrowRecord}
    {container : Container} (backs : state.Backs record container) :
    state.scopes.outlives container.scope record.scope = true ↔
      state.scopes.isOpen container.scope = true := by
  rw [ScopeTree.outlives_iff sound.scopes, sound.scopes.isOpen_iff]
  exact ⟨fun encloses => encloses.mem_path sound.scopes backs.opened, backs.nested⟩

/-- A borrow is rooted if its container is not shared, or if a binding holds it. -/
theorem Orderly.scope_mem_of_backs (orderly : state.Orderly) {record : BorrowRecord}
    {container : Container} (member : record ∈ state.ledger.records)
    (backs : state.Backs record container)
    (checked : container.mode ≠ .shared ∨ record.holder.isSome = true) :
    container.scope ∈ state.scopes.path := by
  obtain ⟨declared, found, filled, opened⟩ := orderly.anchored record member
  rw [declaration?, backs.found, Option.map_some, Option.some.injEq] at found
  subst found
  rcases checked with unshared | held
  · exact orderly.scope_mem backs.found backs.unmoved backs.undestroyed unshared filled
  · exact opened held

/-! ## Pushed references -/

/-- One container has its data as long as another can be used. -/
def Supports (state : State) (lender holder : ContainerId) : Prop :=
  ∃ lent held, state.container? lender = some lent ∧ state.container? holder = some held ∧
    ∀ span, held.ensureUsable span = .ok () → lent.isDestroyed = false

theorem not_supports (span : Span) {lender holder : ContainerId} {lent held : Container}
    (lentFound : state.container? lender = some lent)
    (heldFound : state.container? holder = some held) (usable : held.ensureUsable span = .ok ())
    (destroyed : lent.isDestroyed = true) : ¬state.Supports lender holder := by
  rintro ⟨other, another, otherFound, anotherFound, survives⟩
  obtain rfl := Option.some.inj (otherFound.symm.trans lentFound)
  obtain rfl := Option.some.inj (anotherFound.symm.trans heldFound)
  rw [survives span usable] at destroyed
  contradiction

/-- What a reference is pushed from or into belongs to an open scope unless it is shared. -/
theorem scope_mem_of_checkTransfer (orderly : state.Orderly) {into origin : Access}
    (toTarget : state.Reaches into) (fromSource : state.Reaches origin) {effect : Effect}
    {key : Option Value} {conversion : Option Conversion} {transfer : Transfer}
    (untaken : effect ≠ .take)
    (passed : state.checkTransfer into origin effect key conversion span = .ok transfer) :
    (origin.container.mode ≠ .shared → origin.container.scope ∈ state.scopes.path) ∧
      into.container.mode.canMutate = true ∧
      (into.container.mode ≠ .shared → into.container.scope ∈ state.scopes.path) := by
  obtain ⟨-, -, -, sourcePassed, -, targetPassed⟩ := checkTransfer_eq_ok passed
  obtain ⟨usable, -, -, filled, -, -⟩ := Access.checkSource_eq_ok sourcePassed
  obtain ⟨writable, mutates⟩ := Access.checkTarget_writable targetPassed
  refine ⟨?_, mutates, ?_⟩
  · intro unshared
    obtain ⟨unmoved, undestroyed⟩ := Container.ensureUsable_eq_ok usable
    apply orderly.scope_mem fromSource.container unmoved undestroyed unshared
    intro mode
    exact filled untaken ((orderly.lives fromSource.container).empty mode)
  · intro unshared
    obtain ⟨unmoved, undestroyed⟩ := Container.ensureUsable_eq_ok writable
    apply orderly.scope_mem toTarget.container unmoved undestroyed unshared
    intro mode
    rw [mode] at mutates
    contradiction

theorem Persists.container? (persists : state.Persists after) {id : ContainerId}
    {container : Container} (found : state.container? id = some container) :
    ∃ later, after.container? id = some later ∧ later.declaration = container.declaration := by
  apply Option.map_eq_some_iff.mp
  apply persists.declaration
  rw [declaration?, found]
  rfl

/-- A container whose scope encloses that of another supports it from then on, unless the other is
shared. -/
theorem Persists.supports (persists : state.Persists after) (sound : state.Sound)
    (afterSound : after.Sound) (orderly : after.Orderly) {lender holder : ContainerId}
    {lent held : Container} (lentFound : state.container? lender = some lent)
    (heldFound : state.container? holder = some held) (mutates : held.mode.canMutate = true)
    (unshared : held.mode ≠ .shared) (encloses : state.scopes.Encloses lent.scope held.scope) :
    after.Supports lender holder := by
  obtain ⟨lentLater, lentLookup, lentSame⟩ := persists.container? lentFound
  obtain ⟨heldLater, heldLookup, heldSame⟩ := persists.container? heldFound
  have lentScope : lentLater.scope = lent.scope := congrArg (·.scope) lentSame
  have heldScope : heldLater.scope = held.scope := congrArg (·.scope) heldSame
  have heldMode : heldLater.mode = held.mode := congrArg (·.mode) heldSame
  refine ⟨lentLater, heldLater, lentLookup, heldLookup, ?_⟩
  intro span usable
  obtain ⟨unmoved, undestroyed⟩ := Container.ensureUsable_eq_ok usable
  have opened : heldLater.scope ∈ after.scopes.path := by
    apply orderly.scope_mem heldLookup unmoved undestroyed (heldMode ▸ unshared)
    intro mode
    rw [← heldMode, mode] at mutates
    contradiction
  have later : after.scopes.Encloses lentLater.scope heldLater.scope := by
    rw [lentScope, heldScope]
    exact persists.encloses sound (sound.container_scope heldFound) encloses
  rw [Bool.eq_false_iff]
  intro destroyed
  exact afterSound.destroyed lentLookup destroyed (later.mem_path afterSound.scopes opened)

end State

namespace Verification

/-- The scope of the container encloses the scope of a borrow as long as it is open.  It is open
unless the container is shared and the borrow was created by pushing a reference. -/
theorem borrows_nested (nodes : List Node) {record : BorrowRecord}
    (active : record ∈ (run {} nodes).state.ledger.records) :
    ∃ container, (run {} nodes).state.container? record.container = some container ∧
      ((run {} nodes).state.scopes.outlives container.scope record.scope = true ↔
        (run {} nodes).state.scopes.isOpen container.scope = true) ∧
      (container.mode ≠ .shared ∨ record.holder.isSome = true →
        (run {} nodes).state.scopes.outlives container.scope record.scope = true) := by
  have sound := run_sound nodes
  obtain ⟨container, backs⟩ := sound.backed record active
  have outlives := backs.outlives_iff_isOpen sound
  refine ⟨container, backs.found, outlives, ?_⟩
  intro checked
  rw [outlives, sound.scopes.isOpen_iff]
  exact (run_orderly nodes).scope_mem_of_backs active backs checked

/-- A run that lends the slot of an outer container to a binding of an inner scope, and then pushes
a reference to it into an inner container. -/
def lendingInward : List Node :=
  [⟨.declare "S" .integer none .owned, {}⟩,
    ⟨.bind "s" "S" none, {}⟩,
    ⟨.push "s" (.value (.integer 1)) none none, {}⟩,
    ⟨.enterScope .block, {}⟩,
    ⟨.borrow "v" "s" (.range 0 0) .readOnly, {}⟩,
    ⟨.declare "T" .integer none .owned, {}⟩,
    ⟨.bind "t" "T" none, {}⟩,
    ⟨.push "t" (.transfer "s" .borrow) none none, {}⟩]

theorem borrows_nested_inward :
    (run {} lendingInward).state.ledger.records.length = 2 ∧
      ∀ record ∈ (run {} lendingInward).state.ledger.records, ∃ container,
        (run {} lendingInward).state.container? record.container = some container ∧
          container.scope ≠ record.scope ∧
          (run {} lendingInward).state.scopes.outlives container.scope record.scope = true := by
  refine ⟨by decide, ?_⟩
  intro record active
  obtain ⟨container, found, -, nested⟩ := borrows_nested lendingInward active
  have apart : ∀ record ∈ (run {} lendingInward).state.ledger.records,
      ∀ container ∈ (run {} lendingInward).state.container? record.container,
        container.mode ≠ .shared ∧ container.scope ≠ record.scope := by decide
  obtain ⟨unshared, inner⟩ := apart record active container found
  exact ⟨container, found, inner, nested (.inl unshared)⟩

/-- A run that keeps a shared container in use beyond its scope, and then pushes a reference to
it. -/
def lendingLate : List Node :=
  [⟨.declare "X" .integer none .shared, {}⟩,
    ⟨.bind "outer" "X" none, {}⟩,
    ⟨.enterScope .block, {}⟩,
    ⟨.declare "S" .integer none .shared, {}⟩,
    ⟨.bind "s" "S" none, {}⟩,
    ⟨.push "s" (.value (.integer 1)) none none, {}⟩,
    ⟨.capture "outer" "s", {}⟩,
    ⟨.exitScope, {}⟩,
    ⟨.declare "T" .integer none .owned, {}⟩,
    ⟨.bind "t" "T" none, {}⟩,
    ⟨.push "t" (.transfer "outer" .borrow) none none, {}⟩]

/-- A reference to a shared container whose scope has closed is an active borrow which that scope
does not enclose. -/
theorem borrow_outside_scope :
    ∃ record ∈ (run {} lendingLate).state.ledger.records,
      ∃ container, (run {} lendingLate).state.container? record.container = some container ∧
        (run {} lendingLate).state.scopes.outlives container.scope record.scope = false := by
  exact ⟨_, List.Mem.head _, _, rfl, by decide⟩

/-- A reference is pushed from a container that is not shared only while the scope of that
container is open.  That scope encloses another open scope exactly if it was opened no later.  A
target that is not shared belongs to an open scope, and if the scope of the source was opened no
later than that one, no later state has the target in use and the source destroyed. -/
theorem references_outlived (before after : List Node) {target source : String} {effect : Effect}
    {key : Option Value} {conversion : Option Conversion} {span : Span}
    (lends : effect.borrowMode?.isSome = true)
    (accepted : ((run {} before).state.perform
      (.push target (.transfer source effect) key conversion) span).verdict.ok = true) :
    ∃ into origin, (run {} before).state.access target span = .ok (some into) ∧
      (run {} before).state.access source span = .ok (some origin) ∧
      (origin.container.mode ≠ .shared →
        (run {} before).state.scopes.outlives origin.container.scope
          (run {} before).state.scopes.current = true ∧
        ((run {} before).state.scopes.isOpen into.container.scope = true →
          ((run {} before).state.scopes.outlives origin.container.scope into.container.scope =
              true ↔
            origin.container.scope.index ≤ into.container.scope.index)) ∧
        (into.container.mode ≠ .shared →
          (run {} before).state.scopes.isOpen into.container.scope = true ∧
          (origin.container.scope.index ≤ into.container.scope.index →
            (run {} (before ++ ⟨.push target (.transfer source effect) key conversion, span⟩ ::
              after)).state.Supports origin.container.id into.container.id))) := by
  have sound := run_sound before
  obtain ⟨into, origin, transfer, -, -, intoFound, originFound, passed, -, -⟩ :=
    State.transfer_accepted accepted
  obtain ⟨toTarget, -⟩ := State.access_eq_ok sound intoFound
  obtain ⟨fromSource, -⟩ := State.access_eq_ok sound originFound
  have untaken : effect ≠ .take := by
    rintro rfl
    contradiction
  obtain ⟨originOpen, mutates, intoOpen⟩ :=
    State.scope_mem_of_checkTransfer (run_orderly before) toTarget fromSource untaken passed
  refine ⟨into, origin, intoFound, originFound, ?_⟩
  intro originUnshared
  have originOpen := originOpen originUnshared
  have encloses := @ScopeTree.WellFormed.encloses_iff_index_le _ sound.scopes _
    into.container.scope originOpen
  rw [ScopeTree.outlives_iff sound.scopes, ScopeTree.outlives_iff sound.scopes,
    sound.scopes.isOpen_iff]
  refine ⟨sound.scopes.encloses_current originOpen, encloses, ?_⟩
  intro intoUnshared
  have intoOpen := intoOpen intoUnshared
  refine ⟨intoOpen, ?_⟩
  intro earlier
  exact (run_persists before _).supports sound (run_sound _) (run_orderly _) fromSource.container
    toTarget.container mutates intoUnshared ((encloses intoOpen).mpr earlier)

/-- A run that is ready to push a reference to a container into one of an inner scope. -/
def inward : List Node :=
  [⟨.declare "S" .integer none .owned, {}⟩,
    ⟨.bind "s" "S" none, {}⟩,
    ⟨.push "s" (.value (.integer 1)) none none, {}⟩,
    ⟨.enterScope .block, {}⟩,
    ⟨.declare "T" .integer none .owned, {}⟩,
    ⟨.bind "t" "T" none, {}⟩]

theorem references_outlived_inward :
    ((run {} inward).state.perform
        (.push "t" (.transfer "s" .borrowMut) none none) {}).verdict.ok = true ∧
      ∃ into origin, (run {} inward).state.access "t" {} = .ok (some into) ∧
        (run {} inward).state.access "s" {} = .ok (some origin) ∧
        (run {} inward).state.scopes.outlives origin.container.scope into.container.scope = true ∧
        (run {} (inward ++ ⟨.push "t" (.transfer "s" .borrowMut) none none, {}⟩ ::
          [⟨.enterScope .block, {}⟩, ⟨.exitScope, {}⟩])).state.Supports
            origin.container.id into.container.id := by
  refine ⟨by decide, ?_⟩
  obtain ⟨into, origin, intoFound, originFound, safe⟩ := references_outlived inward
    [⟨.enterScope .block, {}⟩, ⟨.exitScope, {}⟩] rfl
    (by decide : ((run {} inward).state.perform
      (.push "t" (.transfer "s" .borrowMut) none none) {}).verdict.ok = true)
  obtain rfl : _ = into := Option.some.inj (Except.ok.inj intoFound)
  obtain rfl : _ = origin := Option.some.inj (Except.ok.inj originFound)
  obtain ⟨-, encloses, supports⟩ := safe (by decide)
  obtain ⟨opened, supports⟩ := supports (by decide)
  exact ⟨_, _, intoFound, originFound, (encloses opened).mpr (by decide), supports (by decide)⟩

/-- A run that is ready to push a reference to a container into one of an outer scope. -/
def outward : List Node :=
  [⟨.declare "T" .integer none .owned, {}⟩,
    ⟨.bind "t" "T" none, {}⟩,
    ⟨.push "t" (.value (.integer 7)) none none, {}⟩,
    ⟨.enterScope .block, {}⟩,
    ⟨.declare "S" .integer none .owned, {}⟩,
    ⟨.bind "s" "S" none, {}⟩,
    ⟨.push "s" (.value (.integer 1)) none none, {}⟩]

/-- A run that is ready to push a reference to a container into a shared one of the same scope,
which an outer binding can capture. -/
def sideways : List Node :=
  [⟨.declare "X" .integer none .shared, {}⟩,
    ⟨.bind "outer" "X" none, {}⟩,
    ⟨.enterScope .block, {}⟩,
    ⟨.declare "S" .integer none .owned, {}⟩,
    ⟨.bind "s" "S" none, {}⟩,
    ⟨.push "s" (.value (.integer 1)) none none, {}⟩,
    ⟨.declare "T" .integer none .shared, {}⟩,
    ⟨.bind "t" "T" none, {}⟩]

/-- A target of an outer scope, and a shared target of the same scope, are in use and hold what was
pushed when the exit of the scope has destroyed the source. -/
theorem reference_outlives_source :
    (((run {} outward).state.perform
        (.push "t" (.transfer "s" .borrow) none none) {}).verdict.ok = true ∧
      ∃ into origin, (run {} outward).state.access "t" {} = .ok (some into) ∧
        (run {} outward).state.access "s" {} = .ok (some origin) ∧
        origin.container.mode ≠ .shared ∧
        (run {} outward).state.scopes.outlives origin.container.scope into.container.scope = false ∧
        (run {} (outward ++ ⟨.push "t" (.transfer "s" .borrow) none none, {}⟩ ::
          [⟨.exitScope, {}⟩])).state.content into.container.id =
            [⟨some (.integer 7), none⟩, ⟨some (.integer 1), none⟩] ∧
        ¬(run {} (outward ++ ⟨.push "t" (.transfer "s" .borrow) none none, {}⟩ ::
          [⟨.exitScope, {}⟩])).state.Supports origin.container.id into.container.id) ∧
    ((run {} sideways).state.perform
        (.push "t" (.transfer "s" .borrow) none none) {}).verdict.ok = true ∧
      ∃ into origin, (run {} sideways).state.access "t" {} = .ok (some into) ∧
        (run {} sideways).state.access "s" {} = .ok (some origin) ∧
        origin.container.mode ≠ .shared ∧ origin.container.scope = into.container.scope ∧
        (run {} (sideways ++ ⟨.push "t" (.transfer "s" .borrow) none none, {}⟩ ::
          [⟨.capture "outer" "t", {}⟩, ⟨.exitScope, {}⟩])).state.content into.container.id =
            [⟨some (.integer 1), none⟩] ∧
        ¬(run {} (sideways ++ ⟨.push "t" (.transfer "s" .borrow) none none, {}⟩ ::
          [⟨.capture "outer" "t", {}⟩, ⟨.exitScope, {}⟩])).state.Supports
            origin.container.id into.container.id := by
  refine ⟨⟨by decide, _, _, rfl, rfl, by decide, by decide, by decide, ?_⟩,
    by decide, _, _, rfl, rfl, by decide, by decide, by decide, ?_⟩
  · exact State.not_supports {} rfl rfl rfl (by decide)
  · exact State.not_supports {} rfl rfl rfl (by decide)

end Verification

end Custody
