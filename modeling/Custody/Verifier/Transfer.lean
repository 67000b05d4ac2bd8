import Custody.Verifier.Insertion
import Custody.Verifier.Removal

/-!
# Pushes from one container to another

A transfer is checked on its source, its conversion and its target, and changes the state only when
all three pass.  A rejection names the check that failed.
-/

namespace Custody

namespace Access

/-- Check that the head lies in the view that an access acts through. -/
def ensureHeadInView (access : Access) (head : Nat) (span : Span) : Except Diagnostic Unit :=
  match access.view with
  | some record =>
    if record.slots.contains head then .ok ()
    else .error (.about
      (.ownership (.headOutside access.container.name record.extent access.binding.name)) span
      record.span .borrowed)
  | none => .ok ()

/-- Check that the head can be moved out. -/
def checkMove (source : Access) (ledger : Ledger) (head : Nat) (span : Span) :
    Except Diagnostic Unit := do
  source.ensureWritable .moveOut span
  source.ensureHeadInView head span
  source.ensureUnborrowed ledger (.singleton head) (.moveOut source.container.name) span

/-- Check that the whole container can be taken. -/
def checkTake (source : Access) (ledger : Ledger) (span : Span) : Except Diagnostic Unit := do
  let container := source.container
  if !container.mode.canTake then
    throw (.plain (.ownership (.notTakeable container.name container.mode)) span)
  if source.view.isSome then
    throw (.plain (.ownership (.takeThroughView container.name)) span)
  if let some record := ledger.firstOn? container.id none then
    throw (.about (.conflict (.taken container.name)) span record.span .conflictingBorrow)

/-- Check that a reference to the head can be handed out. -/
def checkReference (source : Access) (ledger : Ledger) (effect : Effect) (mode : BorrowMode)
    (head : Nat) (span : Span) : Except Diagnostic Unit := do
  let container := source.container
  if mode.isMutable && !container.mode.canBorrowMutably then
    throw (.plain (.ownership (.notBorrowable container.name container.mode)) span)
  if let some record := source.view then
    if mode.isMutable && !record.mode.isMutable then
      throw (.about (.ownership (.mutableThroughReadOnly source.binding.name)) span record.span
        .borrowedReadOnly)
  source.ensureHeadInView head span
  let attempt := Attempt.headReference effect container.name
  if mode.isMutable then
    source.ensureUnborrowed ledger (.singleton head) attempt span
  else
    source.ensureReadable ledger (.singleton head) attempt span

/-- Check the source of a transfer: the position of its head.  An empty source can only be
taken. -/
def checkSource (source target : Access) (ledger : Ledger) (effect : Effect) (span : Span) :
    Except Diagnostic Nat := do
  let container := source.container
  container.ensureUsable span
  if container.id = target.container.id && effect ≠ .move then
    throw (.plain (.ownership (.intoItself effect container.name)) span)
  if container.content.isEmpty && effect ≠ .take then
    throw (.plain (.range (.emptySource container.name)) span)
  let head := container.length - 1
  match effect with
  | .move => source.checkMove ledger head span
  | .take => source.checkTake ledger span
  | .borrow => source.checkReference ledger effect .readOnly head span
  | .borrowMut => source.checkReference ledger effect .mutable head span
  return head

/-- The value of a slot as another element type. -/
def convertSlot (kind : Option Conversion) (source target : Element) (span : Span) (slot : Slot) :
    Except Diagnostic Slot :=
  match slot.value, kind with
  | some value, some kind => do
    let converted ← (value.convert kind target).mapError fun _ =>
      Diagnostic.plain (.unsupported ⟨kind, source, target⟩) span
    return { slot with value := converted }
  | _, _ => .ok slot

/-- The slots that land in the target, as values of its element type. -/
def convertSlots (source target : Access) (effect : Effect) (conversion : Option Conversion)
    (head : Nat) (span : Span) : Except Diagnostic (List Slot) := do
  let origin := source.container
  let found := origin.element
  let wanted := target.container.element
  if effect.borrowMode?.isSome then
    if let some kind := conversion then
      throw (.plain (.unsupported ⟨kind, found, wanted⟩) span)
    if found ≠ wanted then
      throw (.plain (.typeMismatch (.reference origin.name found wanted)) span)
  let picked :=
    if effect = .take then origin.content else (origin.content[head]?).toList
  let kind ← match conversion with
    | none =>
      if found ≠ wanted then
        throw (.plain
          (.typeMismatch (.transfer origin.name target.container.name found wanted)) span)
      else pure none
    | some kind =>
      match kind.resolve found wanted with
      | .ok resolved => pure (some resolved)
      | .error _ => throw (.plain (.unsupported ⟨kind, found, wanted⟩) span)
  picked.mapM (convertSlot kind found wanted span)

/-- Where a taken slot lands under the hashed perspective. -/
def placeTaken (source target : Access) (span : Span) (slot : Slot) :
    Except Diagnostic Placement :=
  match slot.key with
  | some key => .ok (target.container.content.placementOf key)
  | none => .error (.plain (.typeMismatch (.unkeyedSlot source.container.name)) span)

/-- Where the slots of a taken container land. -/
def takePlacements (source target : Access) (slots : List Slot) (span : Span) :
    Except Diagnostic (List Placement) := do
  let wanted := target.container.key
  let found := source.container.key
  match target.binding.perspective with
  | .lifo => return slots.map fun _ => .head
  | .fifo => return slots.map fun _ => .tail
  | .hashed =>
    if found ≠ wanted || wanted.isNone then
      throw (.plain (.typeMismatch (.takenKeys source.container.name found wanted)) span)
    slots.mapM (placeTaken source target span)

/-- Check the target of a transfer: where each slot lands. -/
def checkTarget (target source : Access) (ledger : Ledger) (effect : Effect) (key : Option Value)
    (slots : List Slot) (span : Span) : Except Diagnostic (List Placement) := do
  target.ensureWritable .push span
  let placements ←
    if effect = .take then
      if key.isSome then
        throw (.plain (.typeMismatch (.keyedTake source.container.name)) span)
      else takePlacements source target slots span
    else do
      let placement ← target.placement key span
      pure [placement]
  target.checkInsertions ledger placements span
  return placements

end Access

/-- A transfer that passed its checks. -/
structure Transfer where
  target : Access
  source : Access
  effect : Effect
  /-- The position of the source's head. -/
  head : Nat
  /-- The slots that land in the target, and where. -/
  slots : List Slot
  placements : List Placement
  deriving DecidableEq, Repr

namespace State

/-- Insert slots one after another.  A key that an earlier one brought along is found again. -/
def insertAll (state : State) (access : Access) : List (Placement × Slot) → State
  | [] => state
  | (planned, slot) :: rest =>
    let placement := match planned, slot.key with
      | .head, some key => (state.content access.container.id).placementOf key
      | _, _ => planned
    insertAll (state.insert access placement slot) access rest

/-- Add a borrow, checked where the container's borrows are. -/
def addBorrow (state : State) (container : Container) (region : Region)
    (except : Option RecordId) (attempt : Attempt) (span : Span) :
    Except Diagnostic (RecordId × State) :=
  if container.mode.isLedgered then do
    let (id, ledger) ← (state.ledger.borrow region except).mapError (·.conflict attempt span)
    return (id, { state with ledger })
  else
    let (id, ledger) := state.ledger.recordUnchecked region
    .ok (id, { state with ledger })

/-- Check a transfer. -/
def checkTransfer (state : State) (target source : Access) (effect : Effect) (key : Option Value)
    (conversion : Option Conversion) (span : Span) : Except Diagnostic Transfer := do
  let head ← (source.checkSource target state.ledger effect span).mapError (·.inStep .source)
  let converted ← (source.convertSlots target effect conversion head span).mapError
    (·.inStep .conversion)
  let slots := if effect = .take then converted else converted.map fun slot => { slot with key }
  let placements ← (target.checkTarget source state.ledger effect key slots span).mapError
    (·.inStep .target)
  return { target, source, effect, head, slots, placements }

/-- Move the head of the source to the target. -/
def commitMove (state : State) (transfer : Transfer) : State :=
  let (_, after) := state.remove transfer.source (.singleton transfer.head)
  let placements :=
    if transfer.source.container.id = transfer.target.container.id then
      transfer.placements.map (·.afterRemoval transfer.head)
    else transfer.placements
  after.insertAll transfer.target (placements.zip transfer.slots)

/-- Move all slots of the source to the target. -/
def commitTake (state : State) (transfer : Transfer) (span : Span) : State :=
  (state.markMoved transfer.source.container.id span).insertAll transfer.target
    (transfer.placements.zip transfer.slots)

/-- Push a reference to the head of the source, and record the borrow. -/
def commitReference (state : State) (transfer : Transfer) (mode : BorrowMode) (span : Span) :
    Except Diagnostic (RecordId × State) := do
  let container := transfer.source.container
  let position := Int64.ofNat transfer.head
  let region : Region :=
    { container := container.id
      extent := .range position position
      slots := .singleton transfer.head
      mode
      scope := state.scopes.current
      span }
  let (id, borrowed) ← (state.addBorrow container region transfer.source.record? .referencePush
    span).mapError (·.inStep .source)
  return (id, borrowed.insertAll transfer.target (transfer.placements.zip transfer.slots))

/-- Carry out a transfer: the borrow it created, and the state after it. -/
def commitTransfer (state : State) (transfer : Transfer) (span : Span) :
    Except Diagnostic (Option RecordId × State) :=
  match transfer.effect.borrowMode? with
  | some mode => do
    let (id, after) ← state.commitReference transfer mode span
    return (some id, after)
  | none =>
    if transfer.effect = .take then .ok (none, state.commitTake transfer span)
    else .ok (none, state.commitMove transfer)

/-- Push from one container to another. -/
def transfer (state : State) (targetName sourceName : String) (effect : Effect)
    (key : Option Value) (conversion : Option Conversion) (span : Span) :
    Except Diagnostic Outcome :=
  state.withAccess targetName span fun target => do
    match ← (state.access sourceName span).mapError (·.inStep .source) with
    | none => return .skipped state
    | some source =>
      let checked ← state.checkTransfer target source effect key conversion span
      let (created, after) ← state.commitTransfer checked span
      let verdict := after.describeAccess target (checked.slots.map (·.value))
      return ⟨after, { verdict with record := created <|> verdict.record }, []⟩

end State

end Custody
