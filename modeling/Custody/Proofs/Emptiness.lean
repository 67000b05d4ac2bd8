import Custody.Proofs.Consumption

/-!
# Containers of the borrowed mode

Slots come into a container only where its mode lets them in, and the borrowed mode does not.  So a
container of that mode is empty for ever, and what is empty cannot lend.  Operations on slots need a
mode that lets them change the container, or else something to read, and a container of the borrowed
mode has neither: all of them are refused.
-/

namespace Custody

/-- Whether an operation pushes, pops, reads or lends slots. -/
def Operation.handlesSlots : Operation → Bool
  | .push .. | .pop .. | .peek .. | .borrow .. => true
  | _ => false

namespace Mode

variable {mode : Mode}

theorem ne_borrowed_of_canMutate (mutates : mode.canMutate = true) : mode ≠ .borrowed := by
  rintro rfl
  contradiction

theorem ne_borrowed_of_canTake (takes : mode.canTake = true) : mode ≠ .borrowed := by
  rintro rfl
  contradiction

end Mode

/-- A container whose mode lets slots in, or that holds some. -/
def Container.Stocks (container : Container) : Prop :=
  container.mode ≠ .borrowed ∨ container.content ≠ []

/-- A peek reads something. -/
theorem Access.reading_filled {access : Access} {extent : Option Extent} {span : Span}
    {slots : SlotSet} (passed : access.reading extent span = .ok slots) :
    access.container.content ≠ [] := by
  cases extent with
  | none =>
      simp only [reading, Check.reject_eq_ok, List.isEmpty_iff] at passed
      exact passed.2.1
  | some extent => exact Container.resolve_filled passed

namespace State

variable {state : State} {name : String} {span : Span} {access : Access}

/-! ## Accepted operations on slots -/

theorem pushValue_stocks {value : Value} {key : Option Value} {conversion : Option Conversion}
    (accepted : (state.settle
      (state.pushValue name value key conversion span)).verdict.ok = true)
    (reached : state.reach? name = some access) : access.container.Stocks := by
  refine withAccess_checked (·.container.Stocks) accepted ?_ reached
  intro access outcome passed
  simp only [Check.bind_eq_ok] at passed
  obtain ⟨_, writable, -⟩ := passed
  exact .inl (Mode.ne_borrowed_of_canMutate (Access.ensureWritable_eq_ok writable).2)

theorem pop_stocks {extent : Option Extent}
    (accepted : (state.settle (state.pop name extent span)).verdict.ok = true)
    (reached : state.reach? name = some access) : access.container.Stocks := by
  refine withAccess_checked (·.container.Stocks) accepted ?_ reached
  intro access outcome passed
  simp only [Check.bind_eq_ok] at passed
  obtain ⟨removed, checked, -⟩ := passed
  exact .inl (Mode.ne_borrowed_of_canMutate (Access.checkPop_writable checked).2)

theorem peek_stocks {extent : Option Extent}
    (accepted : (state.settle (state.peek name extent span)).verdict.ok = true)
    (reached : state.reach? name = some access) : access.container.Stocks := by
  refine withAccess_checked (·.container.Stocks) accepted ?_ reached
  intro access outcome passed
  simp only [Access.checkPeek, Check.bind_eq_ok] at passed
  obtain ⟨slots, ⟨_, -, read, reads, -⟩, -⟩ := passed
  exact .inr (Access.reading_filled reads)

theorem borrow_stocks {source : String} {extent : Extent} {mode : BorrowMode}
    (accepted : (state.settle (state.borrow name source extent mode span)).verdict.ok = true)
    (reached : state.reach? source = some access) : access.container.Stocks := by
  obtain ⟨region, checked⟩ := borrow_checked accepted reached
  obtain ⟨-, -, -, -, filled, -⟩ := checkBorrow_eq_ok checked
  exact .inr filled

theorem transfer_stocks {source : String} {effect : Effect} {key : Option Value}
    {conversion : Option Conversion}
    (accepted : (state.settle
      (state.transfer name source effect key conversion span)).verdict.ok = true) :
    (∀ {access}, state.reach? name = some access → access.container.Stocks) ∧
      ∀ {access}, state.reach? source = some access → access.container.Stocks := by
  obtain ⟨into, origin, transfer, -, -, toTarget, fromSource, checked, -, -⟩ :=
    transfer_accepted accepted
  obtain ⟨-, -, -, sourcePassed, -, targetPassed⟩ := checkTransfer_eq_ok checked
  constructor
  · intro access reached
    rw [Option.some.inj (reached.symm.trans (access_eq_ok_iff.mp toTarget))]
    exact .inl (Mode.ne_borrowed_of_canMutate (Access.checkTarget_writable targetPassed).2)
  · intro access reached
    rw [Option.some.inj (reached.symm.trans (access_eq_ok_iff.mp fromSource))]
    obtain ⟨-, -, -, filled, -, takes⟩ := Access.checkSource_eq_ok sourcePassed
    by_cases taken : effect = .take
    · exact .inl (Mode.ne_borrowed_of_canTake (Access.checkTake_eq_ok (takes taken)).1)
    · exact .inr (filled taken)

/-- Accepted operations on slots use only containers that slots can be in. -/
theorem stocks_of_accepted (sound : state.Sound) {operation : Operation}
    (handles : operation.handlesSlots = true)
    (accepted : (state.perform operation span).verdict.ok = true) {id : ContainerId}
    (used : id ∈ state.used operation) {container : Container}
    (found : state.container? id = some container) : container.Stocks := by
  have stocks : ∀ {name}, (∀ {access}, state.reach? name = some access →
      access.container.Stocks) → (state.reach? name).map (·.container.id) = some id →
      container.Stocks := by
    intro name checked leads
    obtain ⟨access, reached, rfl⟩ := Option.map_eq_some_iff.mp leads
    obtain ⟨reaches, -, -⟩ := sound.reach reached span
    rw [Option.some.inj (found.symm.trans reaches.container)]
    exact checked reached
  cases operation with
  | push binding operand key conversion =>
      obtain ⟨name, named, reached⟩ := List.mem_filterMap.mp used
      cases operand with
      | value literal =>
          rw [List.mem_singleton.mp named] at reached
          exact stocks (pushValue_stocks accepted) reached
      | transfer source effect =>
          obtain ⟨target, origin⟩ := transfer_stocks accepted
          cases List.mem_pair.mp named with
          | inl isTarget => exact stocks target (isTarget ▸ reached)
          | inr isSource => exact stocks origin (isSource ▸ reached)
  | pop binding extent =>
      obtain ⟨name, named, reached⟩ := List.mem_filterMap.mp used
      rw [List.mem_singleton.mp named] at reached
      exact stocks (pop_stocks accepted) reached
  | peek binding extent =>
      obtain ⟨name, named, reached⟩ := List.mem_filterMap.mp used
      rw [List.mem_singleton.mp named] at reached
      exact stocks (peek_stocks accepted) reached
  | borrow binding source extent mode =>
      obtain ⟨name, named, reached⟩ := List.mem_filterMap.mp used
      rw [List.mem_singleton.mp named] at reached
      exact stocks (borrow_stocks accepted) reached
  | _ => contradiction

end State

namespace Verification

/-- A container of the borrowed mode is inert: it is empty, nobody borrows from it, and no push,
pop, peek or borrow that reaches it, as what it acts on or as what it transfers from, is
accepted. -/
theorem borrowed_mode_inert (nodes : List Node) {id : ContainerId} {container : Container}
    (found : (run {} nodes).state.container? id = some container)
    (borrowed : container.mode = .borrowed) :
    container.content = [] ∧
      (∀ record ∈ (run {} nodes).state.ledger.records, record.container ≠ id) ∧
      ∀ operation span, operation.handlesSlots = true → id ∈ (run {} nodes).state.used operation →
        ((run {} nodes).state.perform operation span).verdict.ok = false := by
  have orderly := run_orderly nodes
  have empty := (orderly.lives found).empty borrowed
  refine ⟨empty, ?_, ?_⟩
  · rintro record active rfl
    obtain ⟨declared, lookup, lends, -⟩ := orderly.anchored record active
    rw [State.declaration?, found] at lookup
    exact lends (Option.some.inj lookup ▸ borrowed)
  · intro operation span handles used
    by_contra accepted
    rw [Bool.not_eq_false] at accepted
    rcases State.stocks_of_accepted (run_sound nodes) handles accepted used found with mode | filled
    · exact mode borrowed
    · exact filled empty

/-- A run that declares a container of the borrowed mode in a block, hands it to a binding outside,
and leaves the block. -/
def forgotten : List Node :=
  [⟨.declare "numbers" .integer none .owned, {}⟩,
    ⟨.bind "all" "numbers" none, {}⟩,
    ⟨.bind "kept" "numbers" none, {}⟩,
    ⟨.push "all" (.value (.integer 1)) none none, {}⟩,
    ⟨.enterScope .block, {}⟩,
    ⟨.declare "lent" .integer none .borrowed, {}⟩,
    ⟨.bind "inner" "lent" none, {}⟩,
    ⟨.capture "kept" "inner", {}⟩,
    ⟨.exitScope, {}⟩]

/-- The container can still be reached, and it takes in no slot. -/
theorem borrowed_mode_inert_forgotten :
    ∃ container, (run {} forgotten).state.container? ⟨1⟩ = some container ∧
      container.mode = .borrowed ∧ container.content = [] ∧
      container.ensureUsable {} = .ok () ∧
      ⟨1⟩ ∈ (run {} forgotten).state.used (.push "kept" (.transfer "all" .move) none none) ∧
      ((run {} forgotten).state.perform (.push "kept" (.transfer "all" .move) none none)
        {}).verdict.ok = false := by
  obtain ⟨container, found, borrowed, usable⟩ : ∃ container,
      (run {} forgotten).state.container? ⟨1⟩ = some container ∧ container.mode = .borrowed ∧
        container.ensureUsable {} = .ok () := ⟨_, rfl, rfl, rfl⟩
  have used : ⟨1⟩ ∈ (run {} forgotten).state.used
      (.push "kept" (.transfer "all" .move) none none) := by decide
  obtain ⟨empty, -, refuses⟩ := borrowed_mode_inert forgotten found borrowed
  exact ⟨container, found, borrowed, empty, usable, used, refuses _ _ rfl used⟩

end Verification

end Custody
