import Custody.Verifier.Access

/-!
# Pushes of literals

A push lands at the head or at the tail, by the binding's perspective, and under the hashed
perspective on the slot that already carries its key.
-/

namespace Custody

/-- The placement of a keyed slot: on the slot with its key, or else at the head. -/
def Content.placementOf (content : Content) (key : Value) : Placement :=
  match content.positionOf? key with
  | some position => .replace position
  | none => .head

/-- Insert a slot.  A replacement keeps the key of the slot it overwrites. -/
def Content.insert (content : Content) (placement : Placement) (slot : Slot) : Content :=
  match placement with
  | .head => content.pushHead slot
  | .tail => content.pushTail slot
  | .replace position =>
    match content.replace position slot.value with
    | .ok replaced => replaced
    | .error _ => content

namespace Access

/-- Where a push lands. -/
def placement (access : Access) (key : Option Value) (span : Span) :
    Except Diagnostic Placement :=
  let container := access.container
  match access.binding.perspective, key with
  | .hashed, none =>
    .error (.plain (.typeMismatch (.missingKey container.name container.key)) span)
  | .hashed, some key =>
    match container.key with
    | none => .error (.plain (.typeMismatch (.unexpectedKey container.name key.element)) span)
    | some keyType =>
      if key.element ≠ keyType then
        .error (.plain (.typeMismatch (.keyType container.name key keyType)) span)
      else .ok (container.content.placementOf key)
  | perspective, some key =>
    if !container.isKeyed then
      .error (.plain (.typeMismatch (.unexpectedKey container.name key.element)) span)
    else .error (.plain (.perspective (.keyNeedsHashed perspective)) span)
  | .fifo, none => .ok .tail
  | .lifo, none => .ok .head

/-- Check planned insertions against the view they are made through and against the borrows. -/
def checkInsertions (access : Access) (ledger : Ledger) (placements : List Placement)
    (span : Span) : Except Diagnostic Unit := do
  let container := access.container
  if let some record := access.view then
    if let some outside :=
        placements.find? fun placement => !placement.isWithin record.slots container.length then
      throw (.about
        (.ownership (.pushOutside access.binding.name outside record.extent)) span record.span
        .borrowed)
  access.ensureUnborrowed ledger (Placement.footprints placements container.length)
    (.push container.name) span

end Access

/-- A literal as the element type of its target. -/
def Value.convertFor (value : Value) (conversion : Option Conversion) (target : Element)
    (span : Span) : Except Diagnostic (Option Value) :=
  match conversion with
  | none =>
    if value.element = target then .ok (some value)
    else .error (.plain (.typeMismatch (.literal value target)) span)
  | some kind =>
    (value.convert kind target).mapError fun _ =>
      .plain (.unsupported ⟨kind, value.element, target⟩) span

namespace State

/-- Insert a slot through an access.  The view grows by what is inserted through it. -/
def insert (state : State) (access : Access) (placement : Placement) (slot : Slot) : State :=
  let before := state.content access.container.id
  let after := state.setContent access.container.id (before.insert placement slot)
  match access.record?.bind state.ledger.get? with
  | none => after
  | some record =>
    match placement with
    | .head =>
      { after with ledger := after.ledger.rebase record.id (record.slots.insert before.length) }
    | .tail =>
      { after with ledger := after.ledger.rebase record.id ((record.slots.shiftUp 1).insert 0) }
    | .replace _ => after

/-- Push a literal. -/
def pushValue (state : State) (name : String) (value : Value) (key : Option Value)
    (conversion : Option Conversion) (span : Span) : Except Diagnostic Outcome :=
  state.withAccess name span fun access => do
    access.ensureWritable .push span
    let converted ← value.convertFor conversion access.container.element span
    let placement ← access.placement key span
    access.checkInsertions state.ledger [placement] span
    let after := state.insert access placement ⟨converted, key⟩
    return ⟨after, after.describeAccess access [converted], []⟩

end State

end Custody
