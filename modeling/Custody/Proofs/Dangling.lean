import Custody.Proofs.Reports
import Custody.Proofs.Runs

/-!
# Nothing dangles

Every binding of an open scope refers to something that is still there, and so no run reports that
a container was destroyed or that a view outlives its borrow.
-/

namespace Custody

namespace State

variable {state : State} {span : Span}

/-- No operation reports that something is destroyed, or seen through a borrow that has ended. -/
theorem perform_reports (sound : state.Sound) (operation : Operation) (span : Span) :
    ∀ diagnostic ∈ (state.perform operation span).reports, diagnostic.isStale = false := by
  by_cases itself : state.CapturesItself operation
  · rw [perform_itself itself]
    exact fun _ member => absurd member List.not_mem_nil
  · exact (perform_candid sound itself span).fresh

/-! ## The end of a stream -/

theorem exitAll_reports (sound : state.Sound) (count : Nat) :
    (exitAll count state span).state.Sound ∧
      ∀ diagnostic ∈ (exitAll count state span).reports, IsDangling diagnostic := by
  induction count generalizing state with
  | zero => exact ⟨sound, fun _ member => absurd member List.not_mem_nil⟩
  | succ count ih =>
      unfold exitAll
      split
      · exact ⟨sound, fun _ member => absurd member List.not_mem_nil⟩
      · rename_i closing exits
        obtain ⟨after, reports, -⟩ := sound.exitScope? exits
        obtain ⟨last, later⟩ := ih after
        refine ⟨last, ?_⟩
        intro diagnostic member
        exact (List.mem_append.mp member).elim (reports diagnostic) (later diagnostic)

/-- Once the global scope is closed no binding is left to dangle. -/
theorem closeRoot_reports (sound : state.Sound) :
    ∀ diagnostic ∈ (state.closeRoot span).reports, IsDangling diagnostic := by
  unfold closeRoot
  split
  · exact fun _ member => absurd member List.not_mem_nil
  · rename_i scope scopes closes
    intro diagnostic member
    simp only [closeScope, poisonAll] at member
    rcases List.mem_append.mp member with ended | stale
    · exact endContainers_reports _ span diagnostic ended
    · obtain ⟨binding, views, -⟩ := List.mem_map.mp stale
      rw [viewsOn, List.mem_filter, liveBindings, List.mem_filter] at views
      have opened := views.1.2
      rw [(endContainers_ends ..).scopes] at opened
      rw [ScopeTree.isOpen_closeRoot sound.scopes closes] at opened
      contradiction

theorem closeAll_reports (sound : state.Sound) :
    ∀ diagnostic ∈ (state.closeAll span).reports, IsDangling diagnostic := by
  obtain ⟨inner, reports⟩ := exitAll_reports sound state.scopes.path.length
  intro diagnostic member
  exact (List.mem_append.mp member).elim (reports diagnostic)
    (closeRoot_reports inner diagnostic)

end State

/-! ## Runs -/

namespace Verification

theorem diagnostics_run (nodes : List Node) :
    ∀ diagnostic ∈ (run {} nodes).diagnostics, diagnostic.isStale = false := by
  induction nodes using List.reverseRecOn with
  | nil => exact fun _ member => absurd member List.not_mem_nil
  | append_singleton nodes node ih =>
      rw [run_concat]
      intro diagnostic member
      rcases List.mem_append.mp member with earlier | now
      · exact ih diagnostic earlier
      · exact State.perform_reports (run_sound nodes) node.operation node.span diagnostic now

theorem diagnostics_verify (nodes : List Node) (strict : Bool) :
    ∀ diagnostic ∈ (verify nodes strict).diagnostics, diagnostic.isStale = false := by
  intro diagnostic member
  rcases List.mem_append.mp member with during | after
  · exact diagnostics_run nodes diagnostic during
  · exact Diagnostic.isStale_of_isOrdinary (State.isOrdinary_of_isDangling
      (State.closeAll_reports (run_sound nodes) diagnostic after))

end Verification

/-- What a binding rests on: nothing is asked of a poisoned one; a container that it names directly
was not destroyed; the borrow that it is a view on is active, is owned by its scope or one around
it, and is of a container that was neither moved nor destroyed. -/
def State.Rests (state : State) (binding : Binding) : Prop :=
  match binding.referent with
  | .poisoned => True
  | .direct id => ∃ container, state.container? id = some container ∧
      container.isDestroyed = false
  | .view id => ∃ record container, state.ledger.get? id = some record ∧
      state.scopes.outlives record.scope binding.scope = true ∧
      state.container? record.container = some container ∧ container.isMoved = false ∧
      container.isDestroyed = false

/-- In every state of a run the bindings of open scopes rest on something that is still there.  So
no run, up to its very end, reports that a container was destroyed when its scope exited or that a
view outlives its borrow. -/
theorem Verification.nothing_dangles (nodes : List Node) (strict : Bool) :
    (∀ binding ∈ (run {} nodes).state.liveBindings, (run {} nodes).state.Rests binding) ∧
      ∀ diagnostic ∈ (verify nodes strict).diagnostics,
        (∀ container, diagnostic.violation ≠ .ownership (.destroyed container)) ∧
        ∀ view, diagnostic.violation ≠ .lifetime (.staleView view) := by
  have sound := run_sound nodes
  refine ⟨?_, ?_⟩
  · intro binding live
    rw [State.liveBindings, List.mem_filter] at live
    obtain ⟨index, found⟩ := List.mem_iff_getElem?.mp live.1
    have grounds := @State.Sound.grounded _ sound ⟨index⟩ binding found
      (sound.scopes.isOpen_iff.mp live.2)
    unfold State.Rests
    cases referent : binding.referent with
    | poisoned => trivial
    | direct id =>
        rw [referent] at grounds
        exact grounds
    | view id =>
        rw [referent] at grounds
        obtain ⟨record, member, sameId, encloses⟩ := grounds
        obtain ⟨container, backs⟩ := sound.backed record member
        refine ⟨record, container, sound.ledger.get?_eq_some_iff.mpr ⟨member, sameId⟩,
          (ScopeTree.outlives_iff sound.scopes).mpr encloses, backs.found, ?_, backs.undestroyed⟩
        rw [Container.isMoved, backs.unmoved]
        rfl
  · intro diagnostic member
    have fresh := diagnostics_verify nodes strict diagnostic member
    rw [Diagnostic.isStale] at fresh
    refine ⟨?_, ?_⟩
    · intro container destroyed
      rw [destroyed] at fresh
      contradiction
    · intro view stale
      rw [stale] at fresh
      contradiction

end Custody
