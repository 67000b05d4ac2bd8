import Custody.Operation.Basic
import Custody.Verifier.Borrowing
import Custody.Verifier.Capture
import Custody.Verifier.Closing

/-!
# Verification of a stream

Operations are verified one after another.  Each is checked in full before anything changes, so a
rejected one leaves the state as it was, except that the name of a failed binding is remembered.
Findings are collected and the walk goes on.
-/

namespace Custody

namespace State

/-- Set the perspective of a binding. -/
def setPerspective (state : State) (name : String) (perspective : Perspective) (span : Span) :
    Except Diagnostic Outcome :=
  state.withAccess name span fun access => do
    let (_, stance) ← access.binding.stance.set perspective access.container.isKeyed span
    let after := state.modifyBinding access.binding.id fun binding => { binding with stance }
    return ⟨after, after.describeAccess access [], []⟩

/-- Toggle the perspective of a binding. -/
def flip (state : State) (name : String) (span : Span) : Except Diagnostic Outcome :=
  state.withAccess name span fun access => do
    let stance ← access.binding.stance.flip span
    let after := state.modifyBinding access.binding.id fun binding => { binding with stance }
    return ⟨after, after.describeAccess access [], []⟩

/-- The perspectives that a binding could have and that no arm names. -/
def missingArms (arms : List Perspective) (keyed : Bool) : List Perspective :=
  Perspective.all.filter fun perspective =>
    perspective ∉ arms && (perspective ≠ .hashed || keyed)

/-- Choose by the perspective of a binding.  Arms that leave one out are warned about. -/
def choose (state : State) (name : String) (arms : List Perspective) (fallback : Bool)
    (span : Span) : Except Diagnostic Outcome :=
  state.withAccess name span fun access =>
    let missing := missingArms arms access.container.isKeyed
    let reports : List Diagnostic :=
      if fallback || missing.isEmpty then [] else [.plain (.nonExhaustive name missing) span]
    .ok ⟨state, state.describeAccess access [], reports⟩

/-- Open a scope. -/
def enterScope (state : State) (kind : ScopeKind) (span : Span) : Outcome :=
  let (_, scopes) := state.scopes.enter kind span
  let after := { state with scopes }
  ⟨after, { after.bare with ok := true }, []⟩

/-- Close the innermost scope.  The verdict names the scope that is closed. -/
def exitScope (state : State) (span : Span) : Outcome :=
  match state.exitScope? span with
  | some closing => ⟨closing.state, { state.bare with ok := true }, closing.reports⟩
  | none => .rejected state (.plain .unmatchedExit span)

/-- The outcome of an operation that a check may reject. -/
def settle (state : State) : Except Diagnostic Outcome → Outcome
  | .ok outcome => outcome
  | .error diagnostic => .rejected state diagnostic

/-- Verify one operation. -/
def perform (state : State) (operation : Operation) (span : Span) : Outcome :=
  match operation with
  | .declare container element key mode =>
    state.settle (state.declare container element key mode span)
  | .bind binding container perspective =>
    state.settle (state.bind binding container perspective span)
  | .push binding (.value literal) key conversion =>
    state.settle (state.pushValue binding literal key conversion span)
  | .push binding (.transfer source effect) key conversion =>
    state.settle (state.transfer binding source effect key conversion span)
  | .pop binding extent => state.settle (state.pop binding extent span)
  | .peek binding extent => state.settle (state.peek binding extent span)
  | .borrow binding source extent mode =>
    state.settle (state.borrow binding source extent mode span)
  | .setPerspective binding perspective =>
    state.settle (state.setPerspective binding perspective span)
  | .flip binding => state.settle (state.flip binding span)
  | .capture target source => state.settle (state.capture target source span)
  | .release binding => state.settle (state.release binding span)
  | .choose binding arms fallback => state.settle (state.choose binding arms fallback span)
  | .enterScope kind => state.enterScope kind span
  | .exitScope => state.exitScope span
  | .spawn captures => state.spawn captures span

end State

/-- An operation with what was found out about it. -/
structure AnnotatedNode where
  node : Node
  verdict : Verdict
  deriving DecidableEq, Repr

/-- A verified stream: the annotated operations and every finding. -/
structure Program where
  nodes : List AnnotatedNode
  diagnostics : List Diagnostic
  /-- Whether warnings count as errors. -/
  strict : Bool
  deriving DecidableEq, Repr

namespace Program

/-- The number of findings that block the use of the program. -/
def fatalCount (program : Program) : Nat :=
  program.diagnostics.countP (·.isFatal program.strict)

/-- Whether some finding blocks the use of the program. -/
def hasFatal (program : Program) : Bool :=
  0 < program.fatalCount

end Program

/-- A verification under way. -/
structure Verification where
  state : State := {}
  nodes : List AnnotatedNode := []
  diagnostics : List Diagnostic := []
  /-- The place of the last operation. -/
  last : Span := {}
  deriving DecidableEq, Repr

namespace Verification

/-- Verify the next operation. -/
def step (verification : Verification) (node : Node) : Verification :=
  let outcome := verification.state.perform node.operation node.span
  { state := outcome.state
    nodes := verification.nodes ++ [⟨node, outcome.verdict⟩]
    diagnostics := verification.diagnostics ++ outcome.reports
    last := node.span }

/-- Verify operations in their order. -/
def run (verification : Verification) (nodes : List Node) : Verification :=
  nodes.foldl step verification

/-- Close what is still open and hand out the result. -/
def finish (verification : Verification) (strict : Bool) : Program :=
  let closing := verification.state.closeAll verification.last
  ⟨verification.nodes, verification.diagnostics ++ closing.reports, strict⟩

end Verification

/-- Verify a whole stream. -/
def verify (nodes : List Node) (strict : Bool) : Program :=
  (Verification.run {} nodes).finish strict

end Custody
