import Custody.Proofs.Dangling
import Custody.Proofs.Endings

/-!
# Runs without errors

A run that reports no error has verified everything: no binding ever loses its referent, not even
while what is left open is closed, and every operation is accepted but for captures of a binding by
itself.
-/

namespace Custody

namespace State

variable {state : State} {span : Span}

/-! ## Single operations -/

/-- An operation that reports no error leaves every binding its referent, and is accepted unless it
captures a binding by itself. -/
theorem Unpoisoned.perform (unpoisoned : state.Unpoisoned) (sound : state.Sound)
    {operation : Operation} (quiet : ∀ diagnostic ∈ (state.perform operation span).reports,
      diagnostic.isWarning = true) :
    (state.perform operation span).state.Unpoisoned ∧
      ((state.perform operation span).verdict.ok = true ↔ ¬state.CapturesItself operation) := by
  by_cases itself : state.CapturesItself operation
  · rw [perform_itself itself]
    exact ⟨unpoisoned, fun accepted => absurd accepted Bool.false_ne_true,
      fun other => (other itself).elim⟩
  · obtain ⟨accepted, kept⟩ := (perform_candid sound itself span).frank unpoisoned quiet
    exact ⟨kept, fun _ => itself, fun _ => accepted⟩

/-! ## The end of a stream -/

theorem bindings_exitAll {count : Nat} (silent : (exitAll count state span).reports = []) :
    (exitAll count state span).state.bindings = state.bindings := by
  induction count generalizing state with
  | zero => rfl
  | succ count ih =>
      rw [exitAll] at silent ⊢
      cases exits : state.exitScope? span with
      | none => rfl
      | some closing =>
          simp only [exits] at silent ⊢
          obtain ⟨first, later⟩ := List.append_eq_nil_iff.mp silent
          exact (ih later).trans (bindings_exitScope exits first)

theorem bindings_closeRoot (silent : (state.closeRoot span).reports = []) :
    (state.closeRoot span).state.bindings = state.bindings := by
  rw [closeRoot] at silent ⊢
  cases closes : state.scopes.closeRoot? with
  | none => rfl
  | some closing =>
      simp only [closes] at silent ⊢
      exact bindings_closeScope silent

theorem bindings_tearDown : (state.tearDown span).bindings = state.bindings := by
  simp only [tearDown]
  induction state.deferred generalizing state with
  | nil => rfl
  | cons first rest ih => exact ih

/-- What is closed without a word leaves every binding its referent. -/
theorem Unpoisoned.closing (unpoisoned : state.Unpoisoned)
    (silent : (state.closeAll span).reports = []) :
    ∀ after ∈ state.closingStates span, after.Unpoisoned := by
  obtain ⟨inner, root⟩ := List.append_eq_nil_iff.mp silent
  have exited : ∀ count ≤ state.scopes.path.length,
      (exitAll count state span).state.bindings = state.bindings := by
    intro count inside
    apply bindings_exitAll
    -- What some of the exits report, all of them report.
    rw [← Nat.add_sub_cancel' inside, exitAll_add] at inner
    exact (List.append_eq_nil_iff.mp inner).1
  have closed := (bindings_closeRoot root).trans (exited _ (Nat.le_refl _))
  intro after member
  apply unpoisoned_of_bindings _ unpoisoned
  rw [closingStates, List.mem_append, List.mem_pair] at member
  rcases member with during | atRoot | atEnd
  · obtain ⟨count, inside, rfl⟩ := List.mem_map.mp during
    exact exited count (Nat.le_of_lt_succ (List.mem_range.mp inside))
  · rw [atRoot]
    exact closed
  · rw [atEnd]
    exact bindings_tearDown.trans closed

end State

namespace Verification

/-! ## Whole runs -/

/-- An operation is annotated with what was found out when it was verified. -/
theorem nodes_run (nodes : List Node) (index : Nat) :
    (run {} nodes).nodes[index]? = nodes[index]?.map fun node =>
      ⟨node, ((run {} (nodes.take index)).state.perform node.operation node.span).verdict⟩ := by
  induction nodes using List.reverseRecOn with
  | nil => rfl
  | append_singleton nodes node ih =>
      have length := length_nodes_run nodes
      rw [run_concat]
      change ((run {} nodes).nodes ++ [_])[index]? = _
      rcases Nat.lt_trichotomy index nodes.length with earlier | now | later
      · rw [List.getElem?_append_left (length ▸ earlier), List.getElem?_append_left earlier,
          List.take_append_of_le_length (Nat.le_of_lt earlier)]
        exact ih
      · rw [now, List.take_left, List.getElem?_concat_length, ← length,
          List.getElem?_concat_length]
        rfl
      · rw [List.getElem?_eq_none, List.getElem?_eq_none]
        · rfl
        · rw [List.length_append]
          exact later
        · rw [List.length_append, length]
          exact later

/-- A run reports all that its beginning reported. -/
theorem diagnostics_grow (before after : List Node) :
    (run {} before).diagnostics <+: (run {} (before ++ after)).diagnostics := by
  induction after using List.reverseRecOn with
  | nil => simp
  | append_singleton after node ih =>
      rw [← List.append_assoc, run_concat]
      exact ih.trans (List.prefix_append ..)

/-- As long as a run reports no error, every binding has its referent. -/
theorem run_unpoisoned {nodes : List Node}
    (quiet : ∀ diagnostic ∈ (run {} nodes).diagnostics, diagnostic.isWarning = true) :
    (run {} nodes).state.Unpoisoned := by
  induction nodes using List.reverseRecOn with
  | nil => exact fun _ unbound => absurd unbound List.not_mem_nil
  | append_singleton nodes node ih =>
      rw [run_concat] at quiet ⊢
      have before : (run {} nodes).state.Unpoisoned := ih fun diagnostic member =>
        quiet diagnostic (List.mem_append_left _ member)
      exact (before.perform (run_sound nodes) fun diagnostic member =>
        quiet diagnostic (List.mem_append_right _ member)).1

/-- A stream that is verified without an error was verified in full.  In no state of the run, up to
its very end, has a binding lost its referent, and every operation is accepted, except exactly for
the captures of a binding by itself. -/
theorem clean_run_complete (nodes : List Node) (strict : Bool)
    (clean : ∀ diagnostic ∈ (verify nodes strict).diagnostics, diagnostic.isWarning = true) :
    (∀ state ∈ history nodes, ∀ binding ∈ state.bindings, binding.referent ≠ .poisoned) ∧
      (verify nodes strict).nodes.map (·.node) = nodes ∧
      ∀ index annotated, (verify nodes strict).nodes[index]? = some annotated →
        (annotated.verdict.ok = true ↔
          ¬(run {} (nodes.take index)).state.CapturesItself annotated.node.operation) := by
  have quiet : ∀ count, ∀ diagnostic ∈ (run {} (nodes.take count)).diagnostics,
      diagnostic.isWarning = true := by
    intro count diagnostic member
    have reported := (diagnostics_grow (nodes.take count) (nodes.drop count)).subset member
    rw [List.take_append_drop] at reported
    exact clean diagnostic (List.mem_append_left _ reported)
  have unpoisoned : ∀ count, (run {} (nodes.take count)).state.Unpoisoned := fun count =>
    run_unpoisoned (quiet count)
  have silent : ((run {} nodes).state.closeAll (run {} nodes).last).reports = [] := by
    rw [List.eq_nil_iff_forall_not_mem]
    intro diagnostic member
    have dangling := State.closeAll_reports (run_sound nodes) diagnostic member
    -- What a closing reports is never a mere warning.
    have warning := clean diagnostic (List.mem_append_right _ member)
    rw [Diagnostic.isWarning_of_isOrdinary (State.isOrdinary_of_isDangling dangling)] at warning
    contradiction
  refine ⟨?_, ?_, ?_⟩
  · intro state member
    rw [history, List.mem_append] at member
    cases member with
    | inl during =>
        obtain ⟨count, -, rfl⟩ := List.mem_map.mp during
        exact unpoisoned count
    | inr atEnd =>
        have last := unpoisoned nodes.length
        rw [List.take_length] at last
        exact last.closing silent state atEnd
  · apply List.ext_getElem?
    intro index
    rw [List.getElem?_map]
    change Option.map _ (run {} nodes).nodes[index]? = _
    rw [nodes_run, Option.map_map]
    exact Option.map_id_apply
  · intro index annotated found
    change (run {} nodes).nodes[index]? = some annotated at found
    rw [nodes_run, Option.map_eq_some_iff] at found
    obtain ⟨node, here, rfl⟩ := found
    have reported := quiet (index + 1)
    rw [List.take_add_one, here, Option.toList_some, run_concat] at reported
    exact ((unpoisoned index).perform (run_sound _) fun diagnostic member =>
      reported diagnostic (List.mem_append_right _ member)).2

/-- A run that chooses without all arms, lends, captures across bindings and captures a binding by
itself, and leaves a scope open. -/
def quietRun : List Node :=
  [⟨.declare "X" .integer none .owned, {}⟩,
    ⟨.bind "x" "X" none, {}⟩,
    ⟨.push "x" (.value (.integer 1)) none none, {}⟩,
    ⟨.choose "x" [.lifo] false, {}⟩,
    ⟨.enterScope .block, {}⟩,
    ⟨.borrow "view" "x" (.range 0 0) .readOnly, {}⟩,
    ⟨.bind "other" "X" none, {}⟩,
    ⟨.capture "other" "view", {}⟩,
    ⟨.capture "x" "x", {}⟩,
    ⟨.peek "other" none, {}⟩]

theorem clean_run_complete_warned :
    (∀ diagnostic ∈ (verify quietRun true).diagnostics, diagnostic.isWarning = true) ∧
      (verify quietRun true).diagnostics ≠ [] ∧
      (verify quietRun true).nodes.map (·.verdict.ok) =
        [true, true, true, true, true, true, true, true, false, true] ∧
      (∀ state ∈ history quietRun, ∀ binding ∈ state.bindings, binding.referent ≠ .poisoned) ∧
      (verify quietRun true).nodes.map (·.node) = quietRun ∧
      ∀ index annotated, (verify quietRun true).nodes[index]? = some annotated →
        (annotated.verdict.ok = true ↔
          ¬(run {} (quietRun.take index)).state.CapturesItself annotated.node.operation) := by
  have clean : ∀ diagnostic ∈ (verify quietRun true).diagnostics,
      diagnostic.isWarning = true := by decide
  exact ⟨clean, by decide, by decide, clean_run_complete quietRun true clean⟩

end Verification

end Custody
