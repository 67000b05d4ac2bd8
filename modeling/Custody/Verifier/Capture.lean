import Custody.Operation.Basic
import Custody.Verifier.Access

/-!
# Captures and releases

A capture points a binding at what another one refers to; a spawned task captures bindings for
itself; a release ends the life of a shared container.  What is captured must outlive the one that
captures it.
-/

namespace Custody

namespace State

/-- Check what a capture hands over: the container that the source refers to, if any. -/
def checkCapture (state : State) (target source : Binding) (span : Span) :
    Except Diagnostic (Option Container) :=
  match source.referent with
  | .poisoned => .ok none
  | .view id =>
    match state.ledger.get? id with
    | none => .ok none
    | some record =>
      if state.scopes.outlives record.scope target.scope then
        .ok (state.container? record.container)
      else
        .error (.about (.lifetime (.captureOutlives source.name target.name)) span record.span
          .borrowed)
  | .direct id =>
    match state.container? id with
    | none => .ok none
    | some container => do
      container.ensureUsable span
      return some container

/-- Check that a binding keeps the element and key types of what it reached before. -/
def checkCaptureTypes (state : State) (target source : Binding) (container : Container)
    (span : Span) : Except Diagnostic Unit :=
  match state.accessOf? target with
  | none => .ok ()
  | some current =>
    let wanted := current.container
    if wanted.element ≠ container.element || wanted.key ≠ container.key then
      .error (.plain
        (.typeMismatch (.captured source.name target.name container.element wanted.element)) span)
    else .ok ()

/-- Point a binding at what another one refers to. -/
def capture (state : State) (targetName sourceName : String) (span : Span) :
    Except Diagnostic Outcome := do
  let target ← state.lookupBinding targetName span
  let source ← state.lookupBinding sourceName span
  if target.id = source.id then return .skipped state
  match ← state.checkCapture target source span with
  | none => return .skipped state
  | some container =>
    state.checkCaptureTypes target source container span
    let captured := { target with referent := source.referent, capturedAt := some span }
    let after := state.modifyBinding target.id fun _ => captured
    match after.accessOf? captured with
    | some access => return ⟨after, after.describeAccess access [], []⟩
    | none => return ⟨after, after.bare, []⟩

/-- Check what a task captures: the container that moves into the task, if one does. -/
def checkTaskCapture (state : State) (capture : Capture) (span : Span) :
    Except Diagnostic (Option ContainerId) := do
  let binding ← state.lookupBinding capture.binding span
  match state.accessOf? binding with
  | none => return none
  | some ⟨_, container, some record⟩ =>
    if container.mode = .shared && !capture.take then return none
    else
      throw (.about (.lifetime (.viewIntoTask capture.binding container.name)) span record.span
        .borrowed)
  | some ⟨_, container, none⟩ =>
    container.ensureUsable span
    if container.mode = .shared then
      if capture.take then throw (.plain (.ownership (.sharedTaken container.name)) span)
      else return none
    else if !capture.take then
      throw (.about (.lifetime (.untakenByTask container.name container.mode)) span container.span
        .declared)
    else if !container.mode.canTake then
      throw (.plain (.ownership (.notTakeableByTask container.name container.mode)) span)
    else
      match state.ledger.firstOn? container.id none with
      | some record =>
        throw (.about (.conflict (.takenByTask container.name)) span record.span
          .conflictingBorrow)
      | none => return some container.id

/-- The findings of failed checks. -/
def failures {α : Type} (results : List (Except Diagnostic α)) : List Diagnostic :=
  results.filterMap fun
    | .error diagnostic => some diagnostic
    | .ok _ => none

/-- Spawn a task.  All captures are checked, and the taken containers move only if none
fails. -/
def spawn (state : State) (captures : List Capture) (span : Span) : Outcome :=
  let results := captures.map fun capture => state.checkTaskCapture capture span
  let reports := failures results
  if reports.isEmpty then
    let moved := results.filterMap fun result => (result.toOption.bind id)
    let after := moved.foldl (fun state id => state.markMoved id span) state
    ⟨after, { after.bare with ok := true }, []⟩
  else ⟨state, state.bare, reports⟩

/-- End the life of a shared container. -/
def release (state : State) (name : String) (span : Span) : Except Diagnostic Outcome :=
  state.withAccess name span fun access => do
    let container := access.container
    container.ensureUsable span
    if container.mode ≠ .shared then
      throw (.plain (.ownership (.notReleasable container.name container.mode)) span)
    if access.view.isSome then
      throw (.plain (.ownership (.releaseThroughView container.name)) span)
    let released := state.modifyContainer container.id fun container =>
      { container with liveness := .released span }
    let after := { released with deferred := released.deferred.filter (· ≠ container.id) }
    return ⟨after, after.describeAccess access [], []⟩

end State

end Custody
