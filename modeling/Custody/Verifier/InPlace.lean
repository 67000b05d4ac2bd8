import Custody.Verifier.Step

/-!
# Operations in place

The operations as procedures that work on one state.  A procedure asks its questions of the state
as it is by then and changes the state piece by piece.  It may break off with a finding, and what
it has changed until then stays changed: nothing but the order of questions and changes keeps a
rejected operation from leaving traces.
-/

namespace Custody

/-- What the operations work on: the state, and the findings that were reported. -/
structure Desk where
  state : State
  reports : List Diagnostic := []
  deriving DecidableEq, Repr

/-- A procedure on a desk, which a finding may break off.  What it changed before stays. -/
abbrev Procedure := ExceptT Diagnostic (StateM Desk)

namespace Procedure

variable {α : Type}

/-- Run a procedure: its result, and the desk as it leaves it. -/
def apply (procedure : Procedure α) (desk : Desk) : Except Diagnostic α × Desk :=
  (procedure.run.run desk).run

/-- Look at the state. -/
def look (view : State → α) : Procedure α := do
  return view (← get).state

/-- Ask a question of the state, whose answer may break the procedure off. -/
def ask (question : State → Except Diagnostic α) : Procedure α := do
  match ← look question with
  | .ok answer => return answer
  | .error diagnostic => throw diagnostic

/-- Change the state. -/
def change (next : State → State) : Procedure Unit :=
  modify fun desk => { desk with state := next desk.state }

/-- Report a finding and go on. -/
def report (diagnostic : Diagnostic) : Procedure Unit :=
  modify fun desk => { desk with reports := desk.reports ++ [diagnostic] }

/-- Run a procedure that may break off, and go on with its result. -/
def attempt (procedure : Procedure α) : Procedure (Except Diagnostic α) :=
  ExceptT.lift procedure.run

/-- Work on what a name reaches, if it reaches something. -/
def withAccess (name : String) (span : Span) (act : Access → Procedure Verdict) :
    Procedure Verdict := do
  match ← ask (·.access name span) with
  | some access => act access
  | none => look (·.bare)

/-! ## Declarations -/

/-- Declare a container in the current scope. -/
def register (name : String) (element : Element) (key : Option Element) (mode : Mode)
    (span : Span) : Procedure Container := do
  if let some earlier ← look (·.declaredHere? name) then
    if !earlier.isMoved then
      throw (.about (.duplicate name) span earlier.span .firstDeclared)
  let scope ← look (·.scopes.current)
  let id : ContainerId ← look fun state => ⟨state.containers.length⟩
  let container : Container := { id, name, element, key, mode, scope, span }
  change fun state => { state with containers := state.containers ++ [container] }
  change fun state => { state with
    scopes := state.scopes.modify scope fun scope =>
      { scope with
        containers := scope.containers.insert name id
        declared := scope.declared ++ [id] } }
  return container

/-- Declare a container. -/
def declare (name : String) (element : Element) (key : Option Element) (mode : Mode)
    (span : Span) : Procedure Verdict := do
  let container ← register name element key mode span
  look (·.describe container none none [])

/-- Declare a binding in the current scope. -/
def declareBinding (name : String) (referent : Referent) (perspective : Perspective)
    (span : Span) : Procedure Binding := do
  ask (·.ensureFree name span)
  let scope ← look (·.scopes.current)
  let id : BindingId ← look fun state => ⟨state.bindings.length⟩
  let binding : Binding :=
    { id, name, scope, referent, stance := { current := perspective }, span }
  change fun state => { state with bindings := state.bindings ++ [binding] }
  change fun state => { state with
    scopes := state.scopes.modify scope fun scope =>
      { scope with bindings := scope.bindings.insert name id } }
  return binding

/-- Declare a name without a referent. -/
def declarePoisoned (name : String) (span : Span) : Procedure Unit := do
  let _ ← declareBinding name .poisoned .lifo span

/-- Bind a name to a container. -/
def bind (name container : String) (perspective : Option Perspective) (span : Span) :
    Procedure Verdict := do
  ask (·.ensureFree name span)
  match ← look (·.checkBind container perspective span) with
  | .ok container =>
    let binding ← declareBinding name (.direct container.id) (perspective.getD .lifo) span
    look (·.describe container (some binding) none [])
  | .error diagnostic =>
    declarePoisoned name span
    throw diagnostic

/-! ## Contents -/

/-- Replace the positions of the borrow that an access acts through. -/
def rebase (access : Access) (slots : SlotSet → SlotSet) : Procedure Unit := do
  if let some record ← look fun state => access.record?.bind state.ledger.get? then
    change fun state => { state with ledger := state.ledger.rebase record.id (slots record.slots) }

/-- Insert a slot. -/
def insert (access : Access) (placement : Placement) (slot : Slot) : Procedure Unit := do
  let id := access.container.id
  change fun state => state.setContent id ((state.content id).insert placement slot)
  let length ← look fun state => (state.content id).length
  match placement with
  | .head => rebase access (·.insert (length - 1))
  | .tail => rebase access fun slots => (slots.shiftUp 1).insert 0
  | .replace _ => return

/-- Insert slots one after another.  A key that an earlier one brought along is found again. -/
def insertAll (access : Access) : List (Placement × Slot) → Procedure Unit
  | [] => return
  | (planned, slot) :: rest => do
    let placement ← look fun state => match planned, slot.key with
      | .head, some key => (state.content access.container.id).placementOf key
      | _, _ => planned
    insert access placement slot
    insertAll access rest

/-- Remove slots. -/
def remove (access : Access) (removed : SlotSet) : Procedure Content := do
  let id := access.container.id
  let parts ← look fun state => (state.content id).remove removed.toList
  change (·.setContent id parts.2)
  rebase access (·.compact removed)
  return parts.1

/-- Push a literal. -/
def pushValue (name : String) (value : Value) (key : Option Value)
    (conversion : Option Conversion) (span : Span) : Procedure Verdict :=
  withAccess name span fun access => do
    ask fun _ => access.ensureWritable .push span
    let converted ← ask fun _ => value.convertFor conversion access.container.element span
    let placement ← ask fun _ => access.placement key span
    ask fun state => access.checkInsertions state.ledger [placement] span
    insert access placement ⟨converted, key⟩
    look (·.describeAccess access [converted])

/-- Pop slots. -/
def pop (name : String) (extent : Option Extent) (span : Span) : Procedure Verdict :=
  withAccess name span fun access => do
    let removed ← ask fun state => access.checkPop state.ledger extent span
    let slots ← remove access removed
    look (·.describeAccess access (slots.map (·.value)))

/-- Read slots. -/
def peek (name : String) (extent : Option Extent) (span : Span) : Procedure Verdict :=
  withAccess name span fun access => do
    let slots ← ask fun state => access.checkPeek state.ledger extent span
    let values := slots.toList.map fun position =>
      (access.container.content[position]?).bind (·.value)
    look (·.describeAccess access values)

/-! ## Borrows and transfers -/

/-- Add a borrow, checked where the container's borrows are. -/
def addBorrow (container : Container) (region : Region) (except : Option RecordId)
    (conflict : BorrowRecord → Diagnostic) : Procedure RecordId := do
  if container.mode.isLedgered then
    ask fun state =>
      (if region.mode.isMutable then
        state.ledger.checkWrite region.container region.slots except
      else
        state.ledger.checkRead region.container region.slots except).mapError conflict
  let id : RecordId ← look fun state => ⟨state.ledger.nextId⟩
  change fun state =>
    { state with ledger := (state.ledger.insert region container.mode.isLedgered).2 }
  return id

/-- Carry out a transfer that passed its checks: the borrow it creates. -/
def commitTransfer (transfer : Transfer) (span : Span) : Procedure (Option RecordId) := do
  let container := transfer.source.container
  match transfer.effect.borrowMode? with
  | some mode =>
    let scope ← look (·.scopes.current)
    let position := Int64.ofNat transfer.head
    let region : Region :=
      { container := container.id
        extent := .range position position
        slots := .singleton transfer.head
        mode
        scope
        span }
    let id ← addBorrow container region transfer.source.record? fun record =>
      (record.conflict .referencePush span).inStep .source
    insertAll transfer.target (transfer.placements.zip transfer.slots)
    return some id
  | none =>
    if transfer.effect = .take then
      change (·.markMoved container.id span)
      insertAll transfer.target (transfer.placements.zip transfer.slots)
    else
      let _ ← remove transfer.source (.singleton transfer.head)
      let placements :=
        if container.id = transfer.target.container.id then
          transfer.placements.map (·.afterRemoval transfer.head)
        else transfer.placements
      insertAll transfer.target (placements.zip transfer.slots)
    return none

/-- Push from one container to another. -/
def transfer (targetName sourceName : String) (effect : Effect) (key : Option Value)
    (conversion : Option Conversion) (span : Span) : Procedure Verdict :=
  withAccess targetName span fun target => do
    match ← ask fun state => (state.access sourceName span).mapError (·.inStep .source) with
    | none => look (·.bare)
    | some source =>
      let head ← ask fun state =>
        (source.checkSource target state.ledger effect span).mapError (·.inStep .source)
      let converted ← ask fun _ =>
        (source.convertSlots target effect conversion head span).mapError (·.inStep .conversion)
      let slots := if effect = .take then converted else converted.map fun slot => { slot with key }
      let placements ← ask fun state =>
        (target.checkTarget source state.ledger effect key slots span).mapError (·.inStep .target)
      let created ← commitTransfer { target, source, effect, head, slots, placements } span
      let verdict ← look (·.describeAccess target (slots.map (·.value)))
      return { verdict with record := created <|> verdict.record }

/-- Take a borrow of what a name reaches: the record and the container. -/
def tryBorrow (source : String) (extent : Extent) (mode : BorrowMode) (span : Span) :
    Procedure (Option (RecordId × Container)) := do
  match ← ask (·.access source span) with
  | none => return none
  | some access =>
    let container := access.container
    let region ← ask (·.checkBorrow access extent mode span)
    let id ← addBorrow container region access.record?
      (·.conflict (.borrow mode extent container.name) span)
    return some (id, container)

/-- Bind a name to a borrowed region. -/
def borrow (name source : String) (extent : Extent) (mode : BorrowMode) (span : Span) :
    Procedure Verdict := do
  ask (·.ensureFree name span)
  match ← attempt (tryBorrow source extent mode span) with
  | .ok (some (id, container)) =>
    let binding ← declareBinding name (.view id) .lifo span
    change fun state => { state with ledger := state.ledger.setHolder id binding.id }
    look (·.describe container (some binding) (some id) [])
  | .ok none =>
    declarePoisoned name span
    look (·.bare)
  | .error diagnostic =>
    declarePoisoned name span
    throw diagnostic

/-! ## Perspectives and captures -/

/-- Give a binding another stance. -/
def setStance (access : Access) (stance : Stance) : Procedure Verdict := do
  change (·.modifyBinding access.binding.id fun binding => { binding with stance })
  look (·.describeAccess access [])

/-- Set the perspective of a binding. -/
def setPerspective (name : String) (perspective : Perspective) (span : Span) :
    Procedure Verdict :=
  withAccess name span fun access => do
    let set ← ask fun _ =>
      access.binding.stance.set perspective access.container.isKeyed span
    setStance access set.2

/-- Toggle the perspective of a binding. -/
def flip (name : String) (span : Span) : Procedure Verdict :=
  withAccess name span fun access => do
    let stance ← ask fun _ => access.binding.stance.flip span
    setStance access stance

/-- Choose by the perspective of a binding. -/
def choose (name : String) (arms : List Perspective) (fallback : Bool) (span : Span) :
    Procedure Verdict :=
  withAccess name span fun access => do
    let missing := State.missingArms arms access.container.isKeyed
    if !(fallback || missing.isEmpty) then
      report (.plain (.nonExhaustive name missing) span)
    look (·.describeAccess access [])

/-- Point a binding at what another one refers to. -/
def capture (targetName sourceName : String) (span : Span) : Procedure Verdict := do
  let target ← ask (·.lookupBinding targetName span)
  let source ← ask (·.lookupBinding sourceName span)
  if target.id = source.id then look (·.bare)
  else
    match ← ask (·.checkCapture target source span) with
    | none => look (·.bare)
    | some container =>
      ask (·.checkCaptureTypes target source container span)
      let captured := { target with referent := source.referent, capturedAt := some span }
      change (·.modifyBinding target.id fun _ => captured)
      match ← look (·.accessOf? captured) with
      | some access => look (·.describeAccess access [])
      | none => look (·.bare)

/-- End the life of a shared container. -/
def release (name : String) (span : Span) : Procedure Verdict :=
  withAccess name span fun access => do
    let container := access.container
    ask fun _ => container.ensureUsable span
    if container.mode ≠ .shared then
      throw (.plain (.ownership (.notReleasable container.name container.mode)) span)
    if access.view.isSome then
      throw (.plain (.ownership (.releaseThroughView container.name)) span)
    change (·.modifyContainer container.id fun container =>
      { container with liveness := .released span })
    change fun state => { state with deferred := state.deferred.filter (· ≠ container.id) }
    look (·.describeAccess access [])

/-- Spawn a task.  Every capture is checked, and containers move only if none fails. -/
def spawn (captures : List Capture) (span : Span) : Procedure Verdict := do
  let results ← captures.mapM fun capture => look (·.checkTaskCapture capture span)
  let failures := State.failures results
  if failures.isEmpty then
    let moved := results.filterMap fun result => result.toOption.bind id
    forM moved fun id => change (·.markMoved id span)
  forM failures report
  look fun state => { state.bare with ok := failures.isEmpty }

/-! ## Scopes -/

/-- Report bindings one by one, and remove the referent of each. -/
def poisonAll (bindings : List Binding) (cause : Binding → LifetimeBreach) (span : Span) :
    Procedure Unit :=
  forM bindings fun binding => do
    report (.about (.lifetime (cause binding)) span binding.origin .captured)
    change (·.poison binding.id)

/-- End a container's life as its mode prescribes. -/
def endContainer (span : Span) (id : ContainerId) : Procedure Unit := do
  match ← look (·.container? id) with
  | none => return
  | some container =>
    if container.isMoved || container.liveness ≠ .live then return
    else
      match container.mode.onExit with
      | .destroy =>
        change (·.modifyContainer container.id fun container =>
          { container with liveness := .destroyed span })
        let dangling ← look fun state =>
          state.liveBindings.filter (·.referent = .direct container.id)
        poisonAll dangling (fun binding => .dangling binding.name container.name) span
      | .forget =>
        change (·.modifyContainer id fun container =>
          { container with liveness := .forgotten span })
      | .defer => change fun state => { state with deferred := state.deferred ++ [id] }

/-- Carry out the exit of a scope that has just left the path of open scopes. -/
def closeScope (scope : ScopeId) (span : Span) : Procedure Unit := do
  let released ← look fun state => (state.ledger.releaseScope scope).1
  change fun state => { state with ledger := (state.ledger.releaseScope scope).2 }
  let declared ← look fun state => ((state.scopes.get? scope).map (·.declared)).getD []
  forM declared (endContainer span)
  let stale ← look (·.viewsOn released)
  poisonAll stale (fun binding => .staleView binding.name) span

/-- Open a scope. -/
def enterScope (kind : ScopeKind) (span : Span) : Procedure Verdict := do
  change fun state => { state with scopes := (state.scopes.enter kind span).2 }
  look fun state => { state.bare with ok := true }

/-- Close the innermost scope.  The verdict names the scope that is closed. -/
def exitScope (span : Span) : Procedure Verdict := do
  let verdict : Verdict ← look fun state => { state.bare with ok := true }
  match ← look (·.scopes.exit?) with
  | some (scope, scopes) =>
    change fun state => { state with scopes }
    closeScope scope span
    return verdict
  | none => throw (.plain .unmatchedExit span)

/-! ## Operations -/

/-- The procedure of an operation. -/
def ofOperation (operation : Operation) (span : Span) : Procedure Verdict :=
  match operation with
  | .declare container element key mode => declare container element key mode span
  | .bind binding container perspective => bind binding container perspective span
  | .push binding (.value literal) key conversion => pushValue binding literal key conversion span
  | .push binding (.transfer source effect) key conversion =>
    transfer binding source effect key conversion span
  | .pop binding extent => pop binding extent span
  | .peek binding extent => peek binding extent span
  | .borrow binding source extent mode => borrow binding source extent mode span
  | .setPerspective binding perspective => setPerspective binding perspective span
  | .flip binding => flip binding span
  | .capture target source => capture target source span
  | .release binding => release binding span
  | .choose binding arms fallback => choose binding arms fallback span
  | .enterScope kind => enterScope kind span
  | .exitScope => exitScope span
  | .spawn captures => spawn captures span

/-- The outcome of a procedure: where a finding breaks it off, that is reported, and the state is
the one that the procedure has reached. -/
def conclude (procedure : Procedure Verdict) (desk : Desk) : Outcome :=
  match procedure.apply desk with
  | (.ok verdict, desk) => ⟨desk.state, verdict, desk.reports⟩
  | (.error diagnostic, desk) => ⟨desk.state, desk.state.bare, desk.reports ++ [diagnostic]⟩

end Procedure

/-- Verify one operation in place. -/
def State.carryOut (state : State) (operation : Operation) (span : Span) : Outcome :=
  (Procedure.ofOperation operation span).conclude { state }

end Custody
