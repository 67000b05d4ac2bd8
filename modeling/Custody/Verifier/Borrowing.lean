import Custody.Verifier.Transfer

/-!
# New bindings

A binding names a container, or a borrowed region of what another binding reaches.  When the check
of what it should name fails, the name is declared all the same, without a referent, so that later
uses of it are skipped instead of reported.
-/

namespace Custody

namespace State

/-- Declare a container. -/
def declare (state : State) (name : String) (element : Element) (key : Option Element)
    (mode : Mode) (span : Span) : Except Diagnostic Outcome := do
  let (container, after) ← state.register name element key mode span
  return ⟨after, after.describe container none none [], []⟩

/-- Check the container that a binding is to name. -/
def checkBind (state : State) (name : String) (perspective : Option Perspective) (span : Span) :
    Except Diagnostic Container := do
  let container ← state.lookupContainer name span
  container.ensureUsable span
  if perspective = some .hashed && !container.isKeyed then
    throw (.plain (.perspective (.unkeyedBinding container.name)) span)
  return container

/-- Declare a name without a referent, and report why. -/
def declarePoisoned (state : State) (name : String) (reports : List Diagnostic) (span : Span) :
    Except Diagnostic Outcome := do
  let (_, after) ← state.declareBinding name .poisoned .lifo span
  return ⟨after, after.bare, reports⟩

/-- Bind a name to a container. -/
def bind (state : State) (name container : String) (perspective : Option Perspective)
    (span : Span) : Except Diagnostic Outcome := do
  state.ensureFree name span
  match state.checkBind container perspective span with
  | .ok container =>
    let (binding, after) ←
      state.declareBinding name (.direct container.id) (perspective.getD .lifo) span
    return ⟨after, after.describe container (some binding) none [], []⟩
  | .error diagnostic => state.declarePoisoned name [diagnostic] span

/-- Check a borrow: the region it covers. -/
def checkBorrow (state : State) (access : Access) (extent : Extent) (mode : BorrowMode)
    (span : Span) : Except Diagnostic Region := do
  let container := access.container
  container.ensureUsable span
  if mode.isMutable && !container.mode.canBorrowMutably then
    throw (.plain (.ownership (.notBorrowable container.name container.mode)) span)
  let slots ← container.resolve extent span
  if let some outer := access.view then
    if !outer.slots.covers slots then
      throw (.plain (.range (.borrowOutside extent outer.extent access.binding.name)) span)
    if mode.isMutable && !outer.mode.isMutable then
      throw (.about (.ownership (.mutableThroughReadOnly access.binding.name)) span outer.span
        .borrowedReadOnly)
  let scope := state.scopes.current
  if !state.scopes.outlives container.scope scope then
    throw (.about (.lifetime (.borrowOutlives container.name)) span container.span .declared)
  return { container := container.id, extent, slots, mode, scope, span }

/-- Take a borrow of what a name reaches: the record and the container. -/
def tryBorrow (state : State) (source : String) (extent : Extent) (mode : BorrowMode)
    (span : Span) : Except Diagnostic (Option (RecordId × Container × State)) := do
  match ← state.access source span with
  | none => return none
  | some access =>
    let container := access.container
    let region ← state.checkBorrow access extent mode span
    let (id, after) ← state.addBorrow container region access.record?
      (.borrow mode extent container.name) span
    return some (id, container, after)

/-- Bind a name to a borrowed region. -/
def borrow (state : State) (name source : String) (extent : Extent) (mode : BorrowMode)
    (span : Span) : Except Diagnostic Outcome := do
  state.ensureFree name span
  match state.tryBorrow source extent mode span with
  | .ok (some (id, container, borrowed)) =>
    let (binding, declared) ← borrowed.declareBinding name (.view id) .lifo span
    let after := { declared with ledger := declared.ledger.setHolder id binding.id }
    return ⟨after, after.describe container (some binding) (some id) [], []⟩
  | .ok none => state.declarePoisoned name [] span
  | .error diagnostic => state.declarePoisoned name [diagnostic] span

end State

end Custody
