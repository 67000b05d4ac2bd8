import Custody.Verifier.Access

/-!
# Pops and peeks

A pop removes the head, or the slots that its extent names, and everything above them slides down.
A peek reads slots and leaves them.  Both are checked in full before anything changes.
-/

namespace Custody

namespace Access

/-- The positions that a pop removes under the binding's perspective. -/
def removal (access : Access) (extent : Option Extent) (span : Span) : Except Diagnostic SlotSet :=
  let container := access.container
  let perspective := access.binding.perspective
  match extent with
  | none =>
    if perspective = .hashed then .error (.plain (.range (.popNeedsKey container.name)) span)
    else if container.content.isEmpty then
      .error (.plain (.range (.popEmpty container.name)) span)
    else .ok (.singleton (container.length - 1))
  | some (.range low high) =>
    if perspective = .hashed then .error (.plain (.range .popByRange) span)
    else container.resolve (.range low high) span
  | some (.keys members) =>
    if perspective ≠ .hashed then .error (.plain (.range (.popByKey perspective)) span)
    else container.resolve (.keys members) span

/-- Check a pop: the positions it removes. -/
def checkPop (access : Access) (ledger : Ledger) (extent : Option Extent) (span : Span) :
    Except Diagnostic SlotSet := do
  let container := access.container
  access.ensureWritable .pop span
  let removed ← access.removal extent span
  if let some record := access.view then
    if !record.slots.covers removed then
      throw (.about (.ownership (.popOutside access.binding.name record.extent)) span record.span
        .borrowed)
  let footprint := SlotSet.range (removed.min?.getD 0) (container.length - 1)
  access.ensureUnborrowed ledger footprint (.pop container.name) span
  return removed

/-- The positions that a peek reads. -/
def reading (access : Access) (extent : Option Extent) (span : Span) :
    Except Diagnostic SlotSet :=
  let container := access.container
  match extent with
  | none =>
    if access.binding.perspective = .hashed then
      .error (.plain (.range (.peekNeedsKey container.name)) span)
    else if container.content.isEmpty then
      .error (.plain (.range (.peekEmpty container.name)) span)
    else .ok (.singleton (container.length - 1))
  | some extent => container.resolve extent span

/-- Check a peek: the positions it reads. -/
def checkPeek (access : Access) (ledger : Ledger) (extent : Option Extent) (span : Span) :
    Except Diagnostic SlotSet := do
  let container := access.container
  container.ensureUsable span
  let slots ← access.reading extent span
  if let some record := access.view then
    if !record.slots.covers slots then
      throw (.plain (.range (.peekOutside access.binding.name record.extent)) span)
  access.ensureReadable ledger slots (.read container.name) span
  return slots

end Access

namespace State

/-- Remove slots through an access: the slots removed, and the state without them. -/
def remove (state : State) (access : Access) (removed : SlotSet) : Content × State :=
  let (slots, kept) := (state.content access.container.id).remove removed.toList
  let after := state.setContent access.container.id kept
  match access.record?.bind state.ledger.get? with
  | some record =>
    (slots, { after with ledger := after.ledger.rebase record.id (record.slots.compact removed) })
  | none => (slots, after)

/-- Pop slots. -/
def pop (state : State) (name : String) (extent : Option Extent) (span : Span) :
    Except Diagnostic Outcome :=
  state.withAccess name span fun access => do
    let removed ← access.checkPop state.ledger extent span
    let (slots, after) := state.remove access removed
    return ⟨after, after.describeAccess access (slots.map (·.value)), []⟩

/-- Read slots. -/
def peek (state : State) (name : String) (extent : Option Extent) (span : Span) :
    Except Diagnostic Outcome :=
  state.withAccess name span fun access => do
    let slots ← access.checkPeek state.ledger extent span
    let values := slots.toList.map fun position =>
      (access.container.content[position]?).bind (·.value)
    return ⟨state, state.describeAccess access values, []⟩

end State

end Custody
