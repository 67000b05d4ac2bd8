import Custody.Proofs.Transfers

/-!
# Runs

Every operation takes a sound state through checked changes, so every state of a run is sound, and
what every change keeps is kept by runs.
-/

namespace Custody

namespace State

variable {state : State}

/-- Whatever an operation does, accepted or rejected, is a sequence of checked changes. -/
theorem perform_changes (sound : state.Sound) (operation : Operation) (span : Span) :
    Changes (state.act operation) state (state.perform operation span).state := by
  cases operation with
  | declare container element key mode => exact settle_changes declare_changes
  | bind binding container perspective => exact settle_changes (bind_changes sound)
  | push binding operand key conversion =>
      cases operand with
      | value literal => exact settle_changes (pushValue_changes sound)
      | transfer source effect => exact settle_changes (transfer_changes sound)
  | pop binding extent => exact settle_changes (pop_changes sound)
  | peek binding extent => exact settle_changes (peek_changes sound)
  | borrow binding source extent mode => exact settle_changes (borrow_changes sound)
  | setPerspective binding perspective => exact settle_changes (setPerspective_changes sound)
  | flip binding => exact settle_changes (flip_changes sound)
  | capture target source => exact settle_changes (capture_changes sound)
  | release binding => exact settle_changes (release_changes sound)
  | choose binding arms fallback => exact settle_changes (choose_changes sound)
  | enterScope kind => exact .single .enter
  | exitScope => exact exitScope_changes
  | spawn captures => exact spawn_changes sound captures

end State

namespace Verification

theorem run_concat (verification : Verification) (nodes : List Node) (node : Node) :
    verification.run (nodes ++ [node]) = (verification.run nodes).step node := by
  simp [run]

theorem length_nodes_run (nodes : List Node) : (run {} nodes).nodes.length = nodes.length := by
  induction nodes using List.reverseRecOn with
  | nil => rfl
  | append_singleton nodes node ih =>
      rw [run_concat, List.length_append, ← ih]
      exact List.length_append

/-- Every state of a run is sound. -/
theorem run_sound (nodes : List Node) : (run {} nodes).state.Sound := by
  induction nodes using List.reverseRecOn with
  | nil => exact State.initial_sound
  | append_singleton nodes node ih =>
      rw [run_concat]
      exact (State.perform_changes ih node.operation node.span).sound ih

/-- What holds at first and is kept by every operation holds in every state of a run. -/
theorem run_preserves {holds : State → Prop} (start : holds {})
    (kept : ∀ {state : State} (node : Node), state.Sound → holds state →
      holds (state.perform node.operation node.span).state) (nodes : List Node) :
    holds (run {} nodes).state := by
  induction nodes using List.reverseRecOn with
  | nil => exact start
  | append_singleton nodes node ih =>
      rw [run_concat]
      exact kept node (run_sound nodes) ih

/-- What exactly the operations of one kind break holds all along a run that has none of them, and
only along such runs. -/
theorem run_all_iff {holds : State → Prop} {breaks : State → Node → Prop} (start : holds {})
    (step : ∀ {state : State} (node : Node), state.Sound → holds state →
      (holds (state.perform node.operation node.span).state ↔ ¬breaks state node))
    (nodes : List Node) :
    (∀ before, before <+: nodes → holds (run {} before).state) ↔
      ∀ before node, before ++ [node] <+: nodes → ¬breaks (run {} before).state node := by
  constructor
  · intro all before node begins
    have holds := all before ((List.prefix_append ..).trans begins)
    have later := all (before ++ [node]) begins
    rw [run_concat] at later
    exact (step node (run_sound before) holds).mp later
  · intro unbroken before
    induction before using List.reverseRecOn with
    | nil =>
        intro _
        exact start
    | append_singleton before node ih =>
        intro begins
        rw [run_concat]
        have holds := ih ((List.prefix_append ..).trans begins)
        exact (step node (run_sound before) holds).mpr (unbroken before node begins)

/-- What every change keeps is kept from any state of a run to all that follow. -/
theorem run_keeps {holds : State → Prop} (before after : List Node)
    (start : holds (run {} before).state)
    (kept : ∀ {act : Act} {state next : State}, state.Sound → Change act state next →
      holds state → holds next) : holds (run {} (before ++ after)).state := by
  induction after using List.reverseRecOn with
  | nil =>
      rw [List.append_nil]
      exact start
  | append_singleton after node ih =>
      rw [← List.append_assoc, run_concat]
      have sound := run_sound (before ++ after)
      exact (State.perform_changes sound node.operation node.span).keeps sound kept ih

/-! ## Borrowed positions -/

/-- In every state of a run the positions of a checked borrow are positions of its container,
however the container grew or shrank since the borrow was taken. -/
theorem borrows_inside (nodes : List Node) {record : BorrowRecord}
    (active : record ∈ (run {} nodes).state.ledger.records) (ledgered : record.ledgered = true) :
    ∃ container, (run {} nodes).state.container? record.container = some container ∧
      ∀ position ∈ record.slots, position < container.length := by
  obtain ⟨container, backs⟩ := (run_sound nodes).backed record active
  exact ⟨container, backs.found, backs.inside ledgered⟩

/-- A run that lends the lowest and the highest of three slots, pops the lowest through the view
and pushes another. -/
def sparseView : List Node :=
  [⟨.declare "X" .integer (some .string) .owned, {}⟩,
    ⟨.bind "x" "X" (some .hashed), {}⟩,
    ⟨.push "x" (.value (.integer 1)) (some (.string "a")) none, {}⟩,
    ⟨.push "x" (.value (.integer 2)) (some (.string "b")) none, {}⟩,
    ⟨.push "x" (.value (.integer 3)) (some (.string "c")) none, {}⟩,
    ⟨.borrow "v" "x" (.keys [.string "a", .string "c"]) .mutable, {}⟩,
    ⟨.setPerspective "v" .hashed, {}⟩,
    ⟨.pop "v" (some (.keys [.string "a"])), {}⟩,
    ⟨.push "v" (.value (.integer 4)) (some (.string "d")) none, {}⟩]

theorem borrows_inside_sparse :
    ∃ record ∈ (run {} sparseView).state.ledger.records, record.ledgered = true ∧
      record.slots = .range 1 2 ∧
      ∃ container, (run {} sparseView).state.container? record.container = some container ∧
        ∀ position ∈ record.slots, position < container.length := by
  obtain ⟨record, active, ledgered, slots⟩ :
      ∃ record ∈ (run {} sparseView).state.ledger.records, record.ledgered = true ∧
        record.slots = .range 1 2 := by decide
  exact ⟨record, active, ledgered, slots, borrows_inside sparseView active ledgered⟩

end Verification

end Custody
