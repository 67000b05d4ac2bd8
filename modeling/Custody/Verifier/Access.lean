import Custody.Verifier.Verdict

/-!
# Access to containers

A name resolved to the binding it means, the container that binding reaches and, for a view, the
borrow it acts through; and the checks that every use of a container begins with.
-/

namespace Custody

/-- What an operation does to the state, and what it reports. -/
structure Outcome where
  state : State
  verdict : Verdict
  reports : List Diagnostic := []
  deriving DecidableEq, Repr

namespace Outcome

/-- An operation that a rule rejects. -/
def rejected (state : State) (diagnostic : Diagnostic) : Outcome :=
  ⟨state, state.bare, [diagnostic]⟩

/-- An operation on a name without referent: it is left out, and nothing is reported. -/
def skipped (state : State) : Outcome :=
  ⟨state, state.bare, []⟩

end Outcome

/-- A binding resolved to what it reaches. -/
structure Access where
  binding : Binding
  container : Container
  /-- The borrow that the binding acts through, for views. -/
  view : Option BorrowRecord
  deriving DecidableEq, Repr

/-- The identity of the borrow that an access acts through. -/
def Access.record? (access : Access) : Option RecordId :=
  access.view.map (·.id)

namespace State

/-- What a binding reaches.  A poisoned binding, and a view whose borrow has ended, reach
nothing. -/
def accessOf? (state : State) (binding : Binding) : Option Access :=
  match binding.referent with
  | .direct id => (state.container? id).map fun container => ⟨binding, container, none⟩
  | .view id =>
    (state.ledger.get? id).bind fun record =>
      (state.container? record.container).map fun container => ⟨binding, container, some record⟩
  | .poisoned => none

/-- What a name reaches.  The inner `none` says that the operation is to be skipped. -/
def access (state : State) (name : String) (span : Span) : Except Diagnostic (Option Access) := do
  let binding ← state.lookupBinding name span
  return state.accessOf? binding

/-- Run an operation on what a name reaches. -/
def withAccess (state : State) (name : String) (span : Span)
    (act : Access → Except Diagnostic Outcome) : Except Diagnostic Outcome := do
  match ← state.access name span with
  | some access => act access
  | none => return .skipped state

/-- The verdict on an accepted operation through a binding, as things are now. -/
def describeAccess (state : State) (access : Access) (values : List (Option Value)) : Verdict :=
  let container := (state.container? access.container.id).getD access.container
  let binding := (state.binding? access.binding.id).getD access.binding
  state.describe container (some binding) access.record? values

end State

/-- The finding that an attempt meets an active borrow. -/
def BorrowRecord.conflict (record : BorrowRecord) (attempt : Attempt) (span : Span) : Diagnostic :=
  .about (.conflict (.overlap attempt record.mode record.extent)) span record.span
    .conflictingBorrow

namespace Access

/-- Check that the container may be changed through the access. -/
def ensureWritable (access : Access) (action : WriteAction) (span : Span) :
    Except Diagnostic Unit := do
  let container := access.container
  container.ensureUsable span
  if !container.mode.canMutate then
    throw (.plain (.ownership (.notMutable action container.name container.mode)) span)
  if let some record := access.view then
    if !record.mode.isMutable then
      throw (.about (.ownership (.readOnlyView action access.binding.name)) span record.span
        .borrowedReadOnly)

/-- Check that a write touches no borrow but the one it is made through. -/
def ensureUnborrowed (access : Access) (ledger : Ledger) (footprint : SlotSet) (attempt : Attempt)
    (span : Span) : Except Diagnostic Unit :=
  if access.container.mode.isLedgered then
    (ledger.checkWrite access.container.id footprint access.record?).mapError
      (·.conflict attempt span)
  else .ok ()

/-- Check that a read touches no mutable borrow but the one it is made through. -/
def ensureReadable (access : Access) (ledger : Ledger) (footprint : SlotSet) (attempt : Attempt)
    (span : Span) : Except Diagnostic Unit :=
  if access.container.mode.isLedgered then
    (ledger.checkRead access.container.id footprint access.record?).mapError
      (·.conflict attempt span)
  else .ok ()

end Access

namespace Container

/-- The position of a key in a container with a key type. -/
def positionOfKey (container : Container) (keyType : Element) (key : Value) (span : Span) :
    Except Diagnostic Nat :=
  if key.element ≠ keyType then
    .error (.plain (.typeMismatch (.keyType container.name key keyType)) span)
  else
    match container.content.positionOf? key with
    | some position => .ok position
    | none => .error (.plain (.range (.absentKey key container.name)) span)

/-- The positions that an extent covers. -/
def resolve (container : Container) (extent : Extent) (span : Span) : Except Diagnostic SlotSet :=
  match extent with
  | .range low high =>
    if low < 0 || high < 0 then .error (.plain (.range (.negativeBound extent)) span)
    else if high < low then .error (.plain (.range (.emptyRange extent)) span)
    else if container.length ≤ high.toInt.toNat then
      .error (.plain (.range (.outOfBounds extent container.name container.length)) span)
    else .ok (.range low.toInt.toNat high.toInt.toNat)
  | .keys members =>
    match container.key with
    | none =>
      .error (.plain (.typeMismatch (.notAddressable container.name container.element)) span)
    | some keyType =>
      if members.isEmpty then .error (.plain (.range .emptyKeys) span)
      else do
        let positions ← members.mapM fun key => container.positionOfKey keyType key span
        return .ofList positions

end Container

end Custody
