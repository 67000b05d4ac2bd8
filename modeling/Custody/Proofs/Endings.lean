import Mathlib.Data.List.Range
import Custody.Proofs.Lives

/-!
# The end of a stream

Whatever a stream leaves open is closed after its last operation.  Then every scope is closed, no
borrow is active and no container is put off any more.  Every container has come to the end that
its mode prescribes, unless it was moved away, and it has come to it once.  The end of the stream
reports what exits written out in its place would.
-/

namespace Custody

namespace State

variable {state : State}

/-! ## Scopes that were left open -/

theorem exitAll_of_none {span : Span} (stays : state.exitScope? span = none) (count : Nat) :
    exitAll count state span = ⟨state, []⟩ := by
  cases count with
  | zero => rfl
  | succ count => rw [exitAll, stays]

/-- Scopes exit one after another. -/
theorem exitAll_add (first second : Nat) (span : Span) :
    exitAll (first + second) state span =
      ⟨(exitAll second (exitAll first state span).state span).state,
        (exitAll first state span).reports ++
          (exitAll second (exitAll first state span).state span).reports⟩ := by
  induction first generalizing state with
  | zero =>
      rw [Nat.zero_add]
      rfl
  | succ first ih =>
      rw [Nat.succ_add, exitAll, exitAll]
      cases exits : state.exitScope? span with
      | none =>
          dsimp only
          rw [exitAll_of_none exits]
          rfl
      | some closing =>
          dsimp only
          rw [ih, List.append_assoc]

theorem exitAll_changes (act : Act) (count : Nat) (span : Span) :
    Changes act state (exitAll count state span).state := by
  induction count generalizing state with
  | zero => exact .refl
  | succ count ih =>
      rw [exitAll]
      cases exits : state.exitScope? span with
      | none => exact .refl
      | some closing => exact .head (.exit exits) ih

/-- Once enough scopes have exited the global one is alone. -/
theorem path_exitAll (sound : state.Sound) {count : Nat} (span : Span)
    (enough : state.scopes.path.length ≤ count + 1) :
    ∃ root, (exitAll count state span).state.scopes.path = [root] := by
  induction count generalizing state with
  | zero =>
      obtain ⟨rest, path⟩ := sound.scopes.path_eq
      rw [path, List.length_cons] at enough
      have alone : rest = [] := List.eq_nil_of_length_eq_zero (by omega)
      rw [alone] at path
      exact ⟨_, path⟩
  | succ count ih =>
      rw [exitAll]
      cases exits : state.exitScope? span with
      | none =>
          rw [State.exitScope?, Option.map_eq_none_iff] at exits
          exact ScopeTree.path_of_exit?_eq_none sound.scopes exits
      | some closing =>
          obtain ⟨after, -, scope, scopes, leaves, ends⟩ := sound.exitScope? exits
          apply ih after
          rw [ends.scopes]
          have path := (ScopeTree.exit?_leaves leaves).path
          rw [path, List.length_cons] at enough
          exact Nat.le_of_succ_le_succ enough

/-! ## The global scope -/

/-- The global scope closes as soon as it is alone. -/
theorem closeRoot_eq {root : ScopeId} (alone : state.scopes.path = [root]) (span : Span) :
    ∃ scopes, state.scopes.Leaves root scopes ∧ scopes.path = [] ∧
      (∀ id, state.scopes.WellFormed → scopes.isOpen id = false) ∧
      state.closeRoot span = { state with scopes }.closeScope root span := by
  have closes : state.scopes.closeRoot? =
      some (root, { state.scopes.close root with path := [] }) := by
    rw [ScopeTree.closeRoot?, alone]
  obtain ⟨leaves, path⟩ := ScopeTree.closeRoot?_leaves closes
  refine ⟨_, leaves, path, fun id wf => ScopeTree.isOpen_closeRoot wf closes id, ?_⟩
  rw [closeRoot, closes]

/-! ## What was put off -/

theorem container?_foldl_modifyContainer {change : Container → Container}
    (idempotent : ∀ container, change (change container) = change container)
    (ids : List ContainerId) (other : ContainerId) :
    (ids.foldl (fun state id => state.modifyContainer id change) state).container? other =
      if other ∈ ids then (state.container? other).map change else state.container? other := by
  induction ids generalizing state with
  | nil => rfl
  | cons first rest ih =>
      rw [List.foldl_cons, ih, container?_modifyContainer]
      by_cases now : other = first <;> by_cases more : other ∈ rest <;>
        simp [now, more, Function.comp_def, idempotent]

/-- The containers that were put off are destroyed at the end, as far as they are alive. -/
theorem container?_tearDown (span : Span) (id : ContainerId) :
    (state.tearDown span).container? id = (state.container? id).map fun container =>
      if id ∈ state.deferred ∧ container.liveness = .live then
        { container with liveness := .destroyed span }
      else container := by
  refine (container?_foldl_modifyContainer ?_ state.deferred id).trans ?_
  · intro container
    split <;> rfl
  · cases state.container? id <;> by_cases member : id ∈ state.deferred <;> simp [member]

theorem tearDown_unchanged (span : Span) :
    (state.tearDown span).scopes = state.scopes ∧ (state.tearDown span).ledger = state.ledger := by
  simp only [tearDown]
  induction state.deferred generalizing state with
  | nil => exact ⟨rfl, rfl⟩
  | cons first rest ih => exact ih

theorem tearDown_evolves (accounted : state.Accounted) (span : Span) :
    state.Evolves (state.tearDown span) := by
  refine .of_map (container?_tearDown span) ?_
  intro id container found
  split
  · rename_i waits
    obtain ⟨declared, lookup, shared⟩ := accounted.deferred id waits.1
    exact .destroyed ((mode_eq found lookup).trans shared) waits.2
  · exact .stays

/-! ## The whole closing -/

/-- What the closing of a stream leaves. -/
structure Closed (state : State) : Prop where
  scopes : ∀ scope ∈ state.scopes.scopes, scope.isOpen = false
  ledger : state.ledger.records = []
  accounted : state.Accounted
  path : state.scopes.path = []

/-- Once the global scope is closed nothing is open and nothing is borrowed. -/
theorem closeRoot_closed (regulated : state.Regulated) {root : ScopeId}
    (alone : state.scopes.path = [root]) (span : Span) :
    state.Retains (state.closeRoot span).state ∧ (state.closeRoot span).state.Closed := by
  obtain ⟨sound, orderly, accounted⟩ := regulated
  obtain ⟨scopes, leaves, path, isOpen, closes⟩ := closeRoot_eq alone span
  have ends : Ends _ ({ state with scopes }.closeScope root span).state :=
    closeScope_ends root span
  rw [closes]
  refine ⟨(closeScope_evolves sound orderly leaves span).retains accounted, ?_⟩
  constructor
  case scopes =>
    intro scope member
    rw [ends.scopes] at member
    obtain ⟨index, found⟩ := List.mem_iff_getElem?.mp member
    have closed := isOpen ⟨index⟩ sound.scopes
    rw [ScopeTree.isOpen, ScopeTree.get?, found] at closed
    exact closed
  case ledger =>
    rw [ends.ledger, List.eq_nil_iff_forall_not_mem]
    intro record member
    obtain ⟨active, elsewhere⟩ := (Ledger.mem_records_releaseScope sound.ledger).mp member
    obtain ⟨container, backs⟩ := sound.backed record active
    -- A borrow belongs to an open scope, and the global one was the last.
    have opened := backs.opened
    rw [alone, List.mem_singleton] at opened
    exact elsewhere opened
  case accounted => exact accounted.closeScope sound orderly leaves span
  case path =>
    rw [ends.scopes]
    exact path

end State

namespace Container

/-- The final state of a container. -/
def Finished (container : Container) : Prop :=
  container.isMoved = true ∨
    match container.mode with
    | .owned | .mutable => ∃ span, container.liveness = .destroyed span
    | .borrowed => ∃ span, container.liveness = .forgotten span
    | .shared => ∃ span, container.liveness = .destroyed span ∨ container.liveness = .released span

/-- A life that has ended has ended as the mode prescribes. -/
theorem Regular.finished {container : Container} (regular : container.Regular)
    (gone : container.liveness ≠ .live) : container.Finished := by
  have allowed := regular.allowed
  refine .inr ?_
  cases life : container.liveness with
  | live => exact (gone life).elim
  | destroyed span =>
      rw [life] at allowed
      cases mode : container.mode with
      | owned | mutable => exact ⟨span, rfl⟩
      | borrowed => exact (allowed mode).elim
      | shared => exact ⟨span, .inl rfl⟩
  | forgotten span =>
      rw [life] at allowed
      rw [show container.mode = .borrowed from allowed]
      exact ⟨span, rfl⟩
  | released span =>
      rw [life] at allowed
      rw [show container.mode = .shared from allowed]
      exact ⟨span, .inr rfl⟩

end Container

namespace State

variable {state : State}

/-- The end of the stream finishes what was put off. -/
theorem tearDown_finished (closed : state.Closed) {span : Span} {id : ContainerId}
    {container : Container} (found : (state.tearDown span).container? id = some container) :
    container.Finished := by
  have regular := (tearDown_evolves closed.accounted span).regular closed.accounted found
  rw [container?_tearDown, Option.map_eq_some_iff] at found
  obtain ⟨old, lookup, rfl⟩ := found
  have left : old.scope ∉ state.scopes.path := by
    rw [closed.path]
    exact List.not_mem_nil
  by_cases waiting : id ∈ state.deferred ∧ old.liveness = .live
  · rw [if_pos waiting] at regular ⊢
    exact regular.finished nofun
  · rw [if_neg waiting] at regular ⊢
    rcases closed.accounted.settled lookup left with moved | gone | waits
    · exact .inl moved
    · exact regular.finished gone
    · exact regular.finished fun live => waiting ⟨waits, live⟩

/-- The scopes that are left open exit, the global one closes, and what was put off is destroyed. -/
theorem closeAll_closed (regulated : state.Regulated) (span : Span) :
    ∃ inner root, inner = (exitAll state.scopes.path.length state span).state ∧
      root = (inner.closeRoot span).state ∧ (state.closeAll span).state = root.tearDown span ∧
      inner.Retains root ∧ root.Closed := by
  refine ⟨_, _, rfl, rfl, rfl, ?_⟩
  obtain ⟨-, inner⟩ :=
    (exitAll_changes (state.act .exitScope) state.scopes.path.length span).retains regulated
  obtain ⟨root, alone⟩ := path_exitAll regulated.sound span (Nat.le_succ state.scopes.path.length)
  exact closeRoot_closed inner alone span

/-! ## The states of a run -/

/-- The states of the closing of a stream in their order: after the exit of each scope that was left
open, after the closing of the global scope, and at the end. -/
def closingStates (state : State) (span : Span) : List State :=
  let inner count := (exitAll count state span).state
  (List.range (state.scopes.path.length + 1)).map inner ++
    [((inner state.scopes.path.length).closeRoot span).state, (state.closeAll span).state]

theorem exitAll_retains (regulated : state.Regulated) (count : Nat) (span : Span) :
    state.Retains (exitAll count state span).state ∧ (exitAll count state span).state.Regulated :=
  (exitAll_changes (state.act .exitScope) count span).retains regulated

theorem closingStates_chain (regulated : state.Regulated) (span : Span) :
    (state.closingStates span).IsChain Retains := by
  obtain ⟨inner, root, rfl, rfl, ends, closes, closed⟩ := closeAll_closed regulated span
  rw [closingStates, List.isChain_append]
  refine ⟨?_, ?_, ?_⟩
  · rw [List.isChain_map, List.isChain_range_succ]
    intro count inside
    rw [Nat.succ_eq_add_one, exitAll_add count 1]
    exact (exitAll_retains (exitAll_retains regulated count span).2 1 span).1
  · rw [List.isChain_pair, ends]
    exact (tearDown_evolves closed.accounted span).retains closed.accounted
  · intro last isLast first isFirst
    simp only [List.range_succ, List.map_append, List.map_cons, List.map_nil, List.getLast?_concat,
      List.head?_cons, Option.mem_some_iff] at isLast isFirst
    rw [← isLast, ← isFirst]
    exact closes

end State

namespace Verification

/-- The states of a run in their order: after each operation, and while what was left open is
closed. -/
def history (nodes : List Node) : List State :=
  (List.range (nodes.length + 1)).map (fun count => (run {} (nodes.take count)).state) ++
    (run {} nodes).state.closingStates (run {} nodes).last

/-- The states of a run keep their containers, in the order of the states. -/
theorem history_retains (nodes : List Node) : (history nodes).Pairwise State.Retains := by
  have regulated := run_regulated nodes
  have chain : (history nodes).IsChain State.Retains := by
    rw [history, List.isChain_append]
    refine ⟨?_, State.closingStates_chain regulated _, ?_⟩
    · rw [List.isChain_map, List.isChain_range_succ]
      intro count inside
      rw [Nat.succ_eq_add_one, List.take_add_one]
      exact run_retains ..
    · intro last isLast first isFirst
      simp only [List.range_succ, List.map_append, List.map_cons, List.map_nil,
        List.getLast?_concat, List.take_length, Option.mem_some_iff] at isLast
      have start : (State.exitAll 0 (run {} nodes).state (run {} nodes).last).state = first := by
        simpa [State.closingStates, List.range_succ_eq_map] using isFirst
      rw [← isLast, ← start]
      exact .refl _
  exact @List.IsChain.pairwise _ _ _ ⟨State.Retains.trans⟩ chain

/-- The last state of a run. -/
def final (nodes : List Node) : State :=
  ((run {} nodes).state.closeAll (run {} nodes).last).state

/-- What some state of a run contains is still there at the end. -/
theorem retains_final {nodes : List Node} {state : State} (member : state ∈ history nodes) :
    state.Retains (final nodes) := by
  obtain ⟨earlier, ends⟩ : ∃ earlier, history nodes = earlier ++ [final nodes] := by
    rw [history, State.closingStates, ← List.append_assoc]
    exact ⟨_, List.append_cons ..⟩
  have pairwise := history_retains nodes
  rw [ends, List.pairwise_append] at pairwise
  rw [ends, List.mem_append, List.mem_singleton] at member
  cases member with
  | inl before => exact pairwise.2.2 state before _ (List.mem_singleton_self _)
  | inr last =>
      rw [last]
      exact .refl _

/-- Everything is cleaned up, and once.  At the end every scope is closed, no borrow is active and
no container is put off, and every container that was ever declared has come to its final state.
Along the whole run the life of a container does not change again once it has ended. -/
theorem cleaned_up_once (nodes : List Node) :
    (∀ scope ∈ (final nodes).scopes.scopes, scope.isOpen = false) ∧
      (final nodes).ledger.records = [] ∧ (final nodes).deferred = [] ∧
      (∀ state ∈ history nodes, ∀ id container, state.container? id = some container →
        ∃ last, (final nodes).container? id = some last ∧
          last.declaration = container.declaration ∧ last.Finished) ∧
      (history nodes).Pairwise State.Retains := by
  obtain ⟨inner, root, -, -, ends, -, closed⟩ :=
    State.closeAll_closed (run_regulated nodes) (run {} nodes).last
  have same : final nodes = root.tearDown (run {} nodes).last := ends
  obtain ⟨scopes, ledger⟩ := @State.tearDown_unchanged root (run {} nodes).last
  refine ⟨?_, ?_, ?_, ?_, history_retains nodes⟩
  · rw [same, scopes]
    exact closed.scopes
  · rw [same, ledger]
    exact closed.ledger
  · rw [same]
    rfl
  · intro state member id container found
    obtain ⟨last, there, becomes⟩ := (retains_final member).kept found
    exact ⟨last, there, becomes.declaration, State.tearDown_finished closed (same ▸ there)⟩

end Verification

/-! ## Exits that are written out -/

namespace State

variable {state : State} {span : Span}

/-- While a scope is open inside the global one, the innermost one can exit. -/
theorem exists_exitScope? (inner : 0 < state.scopes.depth) (span : Span) :
    ∃ closing, state.exitScope? span = some closing ∧
      closing.state.scopes.depth + 1 = state.scopes.depth := by
  cases path : state.scopes.path with
  | nil => simp [ScopeTree.depth, path] at inner
  | cons scope rest =>
      cases rest with
      | nil => simp [ScopeTree.depth, path] at inner
      | cons outer rest =>
          let scopes : ScopeTree := { state.scopes.close scope with path := outer :: rest }
          have exits : state.scopes.exit? = some (scope, scopes) := by
            rw [ScopeTree.exit?, path]
          refine ⟨{ state with scopes }.closeScope scope span, ?_, ?_⟩
          · rw [exitScope?, exits]
            rfl
          · rw [(closeScope_ends scope span).scopes, ScopeTree.depth, ScopeTree.depth, path]
            rfl

theorem exitScope?_of_depth (alone : state.scopes.depth = 0) (span : Span) :
    state.exitScope? span = none := by
  rw [exitScope?, Option.map_eq_none_iff, ScopeTree.exit?]
  split
  · rename_i path
    simp [ScopeTree.depth, path] at alone
  · rfl

/-- There is nothing to exit once the inner scopes are closed. -/
theorem exitAll_of_depth {count : Nat} (enough : state.scopes.depth ≤ count) :
    exitAll count state span = exitAll state.scopes.depth state span := by
  induction count generalizing state with
  | zero => rw [Nat.le_zero.mp enough]
  | succ count ih =>
      cases depth : state.scopes.depth with
      | zero => exact exitAll_of_none (exitScope?_of_depth depth span) (count + 1)
      | succ inner =>
          have some : 0 < state.scopes.depth := depth ▸ Nat.succ_pos inner
          obtain ⟨closing, exits, less⟩ := exists_exitScope? some span
          have left : closing.state.scopes.depth = inner := by omega
          have rest : exitAll count closing.state span = exitAll inner closing.state span := by
            rw [ih (by omega), left]
          rw [exitAll, exitAll, exits]
          dsimp only
          rw [rest]

/-- What the end of a stream reports: first what the exits of the open scopes do. -/
theorem reports_closeAll (span : Span) :
    (state.closeAll span).reports = (exitAll state.scopes.depth state span).reports ++
      ((exitAll state.scopes.depth state span).state.closeRoot span).reports := by
  rw [closeAll, exitAll_of_depth (Nat.sub_le ..)]

theorem depth_exitAll (span : Span) :
    (exitAll state.scopes.depth state span).state.scopes.depth = 0 := by
  induction depth : state.scopes.depth generalizing state with
  | zero => exact depth
  | succ inner ih =>
      have some : 0 < state.scopes.depth := depth ▸ Nat.succ_pos inner
      obtain ⟨closing, exits, less⟩ := exists_exitScope? some span
      rw [exitAll, exits]
      exact ih (by omega)

end State

namespace Verification

theorem last_run (nodes : List Node) :
    (run {} nodes).last = (nodes.getLast?.map (·.span)).getD {} := by
  cases nodes using List.reverseRecOn with
  | nil => rfl
  | append_singleton nodes node =>
      rw [run_concat, List.getLast?_concat]
      rfl

/-- Exits that are written out do what the exits at the end of a stream do, and are accepted. -/
theorem run_exits {count : Nat} {verification : Verification}
    (inner : count ≤ verification.state.scopes.depth) :
    ∃ exits : List AnnotatedNode,
      verification.run (.replicate count ⟨.exitScope, verification.last⟩) =
        { state := (State.exitAll count verification.state verification.last).state
          nodes := verification.nodes ++ exits
          diagnostics := verification.diagnostics ++
            (State.exitAll count verification.state verification.last).reports
          last := verification.last } ∧
      ∀ annotated ∈ exits, annotated.verdict.ok = true := by
  induction count generalizing verification with
  | zero => exact ⟨[], by simp [run, State.exitAll], by simp⟩
  | succ count ih =>
      let node : Node := ⟨.exitScope, verification.last⟩
      have some : 0 < verification.state.scopes.depth := Nat.lt_of_lt_of_le (Nat.succ_pos _) inner
      obtain ⟨closing, exits, less⟩ := State.exists_exitScope? some verification.last
      have step : verification.step node =
          { state := closing.state
            nodes := verification.nodes ++
              [⟨node, { verification.state.bare with ok := true }⟩]
            diagnostics := verification.diagnostics ++ closing.reports
            last := verification.last } := by
        simp only [Verification.step, State.perform, State.exitScope, node, exits]
      obtain ⟨later, rest, accepted⟩ :=
        @ih (verification.step node) (by rw [step]; dsimp only; omega)
      have goes : verification.run (.replicate (count + 1) node) =
          (verification.step node).run (.replicate count node) := by
        rw [List.replicate_succ]
        rfl
      rw [step] at rest goes
      rw [goes, rest, State.exitAll, exits]
      refine ⟨⟨node, { verification.state.bare with ok := true }⟩ :: later, ?_, ?_⟩
      · simp
      · simpa using accepted

/-- Every edge out of a scope is the same: the scopes that a stream leaves open are closed at its
end just as exits at the place of its last operation would close them.  These exits are accepted,
and leave only the global scope open. -/
theorem exits_agree (nodes : List Node) (strict : Bool) :
    let exit : Node := ⟨.exitScope, (nodes.getLast?.map (·.span)).getD {}⟩
    let closed := nodes ++ .replicate (run {} nodes).state.scopes.depth exit
    (verify closed strict).diagnostics = (verify nodes strict).diagnostics ∧
      (∀ annotated ∈ (verify closed strict).nodes.drop nodes.length,
        annotated.verdict.ok = true) ∧ (run {} closed).state.scopes.depth = 0 := by
  dsimp only
  rw [← last_run]
  obtain ⟨exits, whole, accepted⟩ := run_exits (Nat.le_refl (run {} nodes).state.scopes.depth)
  have same : run {} (nodes ++ .replicate (run {} nodes).state.scopes.depth
      ⟨.exitScope, (run {} nodes).last⟩) = _ := List.foldl_append.trans whole
  rw [verify, verify, same, finish, finish]
  dsimp only
  refine ⟨?_, ?_, State.depth_exitAll _⟩
  · rw [State.reports_closeAll, State.reports_closeAll, State.depth_exitAll, State.exitAll,
      List.nil_append, List.append_assoc]
  · rw [List.drop_left' (length_nodes_run nodes)]
    exact accepted

end Verification

end Custody
