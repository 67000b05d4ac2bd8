import Custody.Proofs.Takes

/-!
# Commits run through

An operation is checked first and committed afterwards, and a commit makes three kinds of calls that
may fail: it replaces a slot in place, it borrows the head that it pushes a reference to, and it
declares a name.  Here every operation is run with a guard on each of these calls, which stops it
at the first one that fails.  What the checks have found out stays true while the commit changes the
state, so in a state that is reached no guard ever stops a commit.
-/

namespace Custody

/-- An error branch of a commit. -/
inductive Fault
  /-- A replacement past the end of the content. -/
  | outOfRange (position length : Nat)
  /-- A borrow that meets an active one. -/
  | conflict (finding : Diagnostic)
  /-- A name that its scope declares already. -/
  | duplicate (finding : Diagnostic)
  deriving DecidableEq, Repr

/-! ## Guarded commits -/

/-- Insert a slot, unless it replaces one that is not there. -/
def Content.guardedInsert (content : Content) (placement : Placement) (slot : Slot) :
    Except Fault Content :=
  match placement with
  | .head => .ok (content.pushHead slot)
  | .tail => .ok (content.pushTail slot)
  | .replace position => (content.replace position slot.value).mapError (.outOfRange position)

namespace State

/-- Insert a slot through an access under guard. -/
def guardedInsert (state : State) (access : Access) (placement : Placement) (slot : Slot) :
    Except Fault State := do
  let _ ← (state.content access.container.id).guardedInsert placement slot
  return state.insert access placement slot

/-- Insert slots one after another under guard. -/
def guardedInsertAll (state : State) (access : Access) :
    List (Placement × Slot) → Except Fault State
  | [] => .ok state
  | (planned, slot) :: rest => do
    let placement := (state.content access.container.id).landing planned slot
    let after ← state.guardedInsert access placement slot
    after.guardedInsertAll access rest

/-- Declare a binding under guard. -/
def guardedDeclare (state : State) (name : String) (referent : Referent)
    (perspective : Perspective) (span : Span) : Except Fault (Binding × State) :=
  (state.declareBinding name referent perspective span).mapError .duplicate

/-- Carry out a transfer under guard. -/
def guardedCommit (state : State) (transfer : Transfer) (span : Span) :
    Except Fault (Option RecordId × State) :=
  let planned := transfer.placements.zip transfer.slots
  match transfer.effect.borrowMode? with
  | some mode => do
    let position := Int64.ofNat transfer.head
    let region : Region :=
      { container := transfer.source.container.id
        extent := .range position position
        slots := .singleton transfer.head
        mode
        scope := state.scopes.current
        span }
    let (id, borrowed) ← (state.addBorrow transfer.source.container region transfer.source.record?
      .referencePush span).mapError .conflict
    let after ← borrowed.guardedInsertAll transfer.target planned
    return (some id, after)
  | none =>
    if transfer.effect = .take then do
      let after ← (state.markMoved transfer.source.container.id span).guardedInsertAll
        transfer.target planned
      return (none, after)
    else do
      let placements :=
        if transfer.source.container.id = transfer.target.container.id then
          transfer.placements.map (·.afterRemoval transfer.head)
        else transfer.placements
      let after ← (state.remove transfer.source (.singleton transfer.head)).2.guardedInsertAll
        transfer.target (placements.zip transfer.slots)
      return (none, after)

/-! ## Guarded operations

A guarded operation is rejected by a check, or its commit runs through or into a fault. -/

/-- Run a guarded operation on what a name reaches. -/
def guardedAccess (state : State) (name : String) (span : Span)
    (act : Access → Except Diagnostic (Except Fault Outcome)) :
    Except Diagnostic (Except Fault Outcome) := do
  match ← state.access name span with
  | some access => act access
  | none => return .ok (.skipped state)

/-- Push a literal under guard. -/
def guardedPush (state : State) (name : String) (value : Value) (key : Option Value)
    (conversion : Option Conversion) (span : Span) : Except Diagnostic (Except Fault Outcome) :=
  state.guardedAccess name span fun access => do
    access.ensureWritable .push span
    let converted ← value.convertFor conversion access.container.element span
    let placement ← access.placement key span
    access.checkInsertions state.ledger [placement] span
    return do
      let after ← state.guardedInsert access placement ⟨converted, key⟩
      return ⟨after, after.describeAccess access [converted], []⟩

/-- Push from one container to another under guard. -/
def guardedTransfer (state : State) (targetName sourceName : String) (effect : Effect)
    (key : Option Value) (conversion : Option Conversion) (span : Span) :
    Except Diagnostic (Except Fault Outcome) :=
  state.guardedAccess targetName span fun target => do
    match ← (state.access sourceName span).mapError (·.inStep .source) with
    | none => return .ok (.skipped state)
    | some source =>
      let checked ← state.checkTransfer target source effect key conversion span
      return do
        let (created, after) ← state.guardedCommit checked span
        let verdict := after.describeAccess target (checked.slots.map (·.value))
        return ⟨after, { verdict with record := created <|> verdict.record }, []⟩

/-- Declare a name without a referent under guard. -/
def guardedPoisoned (state : State) (name : String) (reports : List Diagnostic) (span : Span) :
    Except Fault Outcome := do
  let (_, after) ← state.guardedDeclare name .poisoned .lifo span
  return ⟨after, after.bare, reports⟩

/-- Bind a name to a container under guard. -/
def guardedBind (state : State) (name container : String) (perspective : Option Perspective)
    (span : Span) : Except Diagnostic (Except Fault Outcome) := do
  state.ensureFree name span
  match state.checkBind container perspective span with
  | .ok container =>
    return do
      let (binding, after) ←
        state.guardedDeclare name (.direct container.id) (perspective.getD .lifo) span
      return ⟨after, after.describe container (some binding) none [], []⟩
  | .error diagnostic => return state.guardedPoisoned name [diagnostic] span

/-- Bind a name to a borrowed region under guard. -/
def guardedBorrow (state : State) (name source : String) (extent : Extent) (mode : BorrowMode)
    (span : Span) : Except Diagnostic (Except Fault Outcome) := do
  state.ensureFree name span
  match state.tryBorrow source extent mode span with
  | .ok (some (id, container, borrowed)) =>
    return do
      let (binding, declared) ← borrowed.guardedDeclare name (.view id) .lifo span
      let after := { declared with ledger := declared.ledger.setHolder id binding.id }
      return ⟨after, after.describe container (some binding) (some id) [], []⟩
  | .ok none => return state.guardedPoisoned name [] span
  | .error diagnostic => return state.guardedPoisoned name [diagnostic] span

/-- The outcome of a guarded operation that a check may reject. -/
def guardedSettle (state : State) :
    Except Diagnostic (Except Fault Outcome) → Except Fault Outcome
  | .ok committed => committed
  | .error diagnostic => .ok (.rejected state diagnostic)

/-- Verify one operation under guard.  The other operations make no call that is guarded. -/
def guardedPerform (state : State) (operation : Operation) (span : Span) : Except Fault Outcome :=
  match operation with
  | .push binding (.value literal) key conversion =>
    state.guardedSettle (state.guardedPush binding literal key conversion span)
  | .push binding (.transfer source effect) key conversion =>
    state.guardedSettle (state.guardedTransfer binding source effect key conversion span)
  | .bind binding container perspective =>
    state.guardedSettle (state.guardedBind binding container perspective span)
  | .borrow binding source extent mode =>
    state.guardedSettle (state.guardedBorrow binding source extent mode span)
  | _ => .ok (state.perform operation span)

end State

/-! ## Replacements -/

/-- A placement that content has room for: one that replaces a slot finds it there. -/
def Placement.Fits (content : Content) : Placement → Prop
  | .head => True
  | .tail => True
  | .replace position => position < content.length

namespace Placement

theorem Fits.mono {placement : Placement} {content longer : Content}
    (fits : placement.Fits content) (length : content.length ≤ longer.length) :
    placement.Fits longer := by
  cases placement with
  | head => trivial
  | tail => trivial
  | replace position => exact Nat.lt_of_lt_of_le fits length

theorem fits_placementOf (content : Content) (key : Value) :
    (content.placementOf key).Fits content := by
  unfold Content.placementOf
  cases found : content.positionOf? key with
  | none => trivial
  | some position => exact Content.positionOf?_lt found

/-- A slot that is planned anew finds what it replaces. -/
theorem Fits.landing {placement : Placement} {content : Content} (fits : placement.Fits content)
    (slot : Slot) : (content.landing placement slot).Fits content := by
  unfold Content.landing
  split
  · exact fits_placementOf ..
  · exact fits

/-- Once the head is gone, a replacement of it goes to the head, and any other one finds its
slot. -/
theorem Fits.afterRemoval {placement : Placement} {content : Content}
    (fits : placement.Fits content) :
    (placement.afterRemoval (content.length - 1)).Fits content.dropLast := by
  cases placement with
  | head => trivial
  | tail => trivial
  | replace position =>
    have inside : position < content.length := fits
    rw [Placement.afterRemoval]
    split
    · trivial
    · have below : position < content.length - 1 := by omega
      rw [if_neg (by omega), Fits, List.length_dropLast]
      exact below

end Placement

namespace Access

theorem fits_placement {access : Access} {key : Option Value} {span : Span} {placement : Placement}
    (placed : access.placement key span = .ok placement) :
    placement.Fits access.container.content := by
  rcases placement_eq_ok placed with ⟨-, rfl | rfl⟩ | ⟨value, -, rfl⟩
  · trivial
  · trivial
  · exact Placement.fits_placementOf ..

theorem fits_takePlacements {source target : Access} {slots : List Slot} {span : Span}
    {placements : List Placement}
    (passed : takePlacements source target slots span = .ok placements) :
    ∀ pair ∈ placements.zip slots, pair.1.Fits target.container.content := by
  intro pair member
  have listed := (List.of_mem_zip member).1
  have planned := takePlacements_eq_ok passed
  split at planned
  · rw [planned] at listed
    obtain ⟨_, -, lands⟩ := List.mem_map.mp listed
    rw [← lands]
    trivial
  · rw [planned] at listed
    obtain ⟨_, -, lands⟩ := List.mem_map.mp listed
    rw [← lands]
    trivial
  · obtain ⟨key, -, placed⟩ := planned pair member
    rw [placed]
    exact Placement.fits_placementOf ..

end Access

/-- The guard of an insertion stops exactly the replacements that are out of range. -/
theorem Content.guardedInsert_eq_ok_iff {content result : Content} {placement : Placement}
    {slot : Slot} :
    content.guardedInsert placement slot = .ok result ↔
      placement.Fits content ∧ content.insert placement slot = result := by
  cases placement with
  | head => simp [guardedInsert, insert, Placement.Fits]
  | tail => simp [guardedInsert, insert, Placement.Fits]
  | replace position =>
    by_cases inside : position < content.length
    · simp [guardedInsert, insert, replace, Placement.Fits, inside]
    · simp [guardedInsert, insert, replace, Placement.Fits, inside]

namespace State

variable {state : State} {access source target : Access} {span : Span}

theorem guardedInsert_eq {placement : Placement}
    (fits : placement.Fits (state.content access.container.id)) (slot : Slot) :
    state.guardedInsert access placement slot = .ok (state.insert access placement slot) := by
  exact Check.bind_eq_ok.mpr ⟨_, Content.guardedInsert_eq_ok_iff.mpr ⟨fits, rfl⟩, rfl⟩

/-- Insertions only make room: what fits before them fits between them. -/
theorem guardedInsertAll_eq {planned : List (Placement × Slot)} {container : Container}
    (found : state.container? access.container.id = some container)
    (fits : ∀ pair ∈ planned, pair.1.Fits (state.content access.container.id)) :
    state.guardedInsertAll access planned = .ok (state.insertAll access planned) := by
  induction planned generalizing state container with
  | nil => rfl
  | cons first rest ih =>
    obtain ⟨placement, slot⟩ := first
    obtain ⟨first, others⟩ := List.forall_mem_cons.mp fits
    have there := @container?_insert state access
      ((state.content access.container.id).landing placement slot) slot access.container.id
    rw [if_pos rfl, found, Option.map_some] at there
    rw [guardedInsertAll, guardedInsert_eq (first.landing slot), insertAll_cons]
    refine ih there fun pair member => (others pair member).mono ?_
    rw [content_insert found]
    exact Content.length_le_insert ..

end State

/-! ## Borrows and declarations -/

namespace Access

variable {source target : Access} {ledger : Ledger} {effect : Effect} {mode : BorrowMode}
  {head : Nat} {span : Span}

/-- A head that may be referred to is under no borrow that the reference would meet. -/
theorem checkReference_eq_ok
    (passed : source.checkReference ledger effect mode head span = .ok ()) :
    (if mode.isMutable then source.ensureUnborrowed ledger (.singleton head)
        (.headReference effect source.container.name) span
      else source.ensureReadable ledger (.singleton head)
        (.headReference effect source.container.name) span) = .ok () := by
  simp only [checkReference, Check.throw_eq_error, Check.error_bind, Check.reject_eq_ok] at passed
  obtain ⟨-, passed⟩ := passed
  split at passed
  · obtain ⟨-, passed⟩ := Check.reject_eq_ok.mp passed
    obtain ⟨_, -, checked⟩ := Check.bind_eq_ok.mp passed
    exact checked
  · obtain ⟨_, -, checked⟩ := Check.bind_eq_ok.mp passed
    exact checked

theorem checkSource_reference (reference : effect.borrowMode? = some mode)
    (passed : source.checkSource target ledger effect span = .ok head) :
    source.checkReference ledger effect mode head span = .ok () := by
  simp only [checkSource, Check.throw_eq_error, Check.error_bind, Check.reject_eq_ok,
    Check.bind_eq_ok] at passed
  obtain ⟨_, -, -, -, passed⟩ := passed
  cases effect <;> cases reference <;> simp only [Check.bind_eq_ok, Check.pure_eq_ok] at passed <;>
    obtain ⟨_, checked, rfl⟩ := passed <;> exact checked

end Access

namespace State

variable {state : State} {source target : Access} {span : Span} {effect : Effect}
  {key : Option Value} {conversion : Option Conversion} {transfer : Transfer}

/-- The check of a reference is the one that its borrow makes. -/
theorem exists_addBorrow {region : Region} {head : Nat} {attempt : Attempt}
    (onSource : region.container = source.container.id) (covers : region.slots = .singleton head)
    (passed : source.checkReference state.ledger effect region.mode head span = .ok ()) :
    ∃ id after, state.addBorrow source.container region source.record? attempt span =
      .ok (id, after) ∧ after.containers = state.containers := by
  have checked := Access.checkReference_eq_ok passed
  unfold addBorrow
  split
  · rename_i ledgered
    have free : state.ledger.borrow region source.record? =
        .ok (state.ledger.insert region true) := by
      rw [Ledger.borrow, onSource, covers]
      split at checked
      · rename_i mutable
        rw [Access.ensureUnborrowed, if_pos ledgered, Check.mapError_eq_ok] at checked
        rw [if_pos mutable, checked]
        rfl
      · rename_i readOnly
        rw [Access.ensureReadable, if_pos ledgered, Check.mapError_eq_ok] at checked
        rw [if_neg readOnly, checked]
        rfl
    rw [free]
    exact ⟨_, _, rfl, rfl⟩
  · exact ⟨_, _, rfl, rfl⟩

/-- A name that is free can be declared. -/
theorem guardedDeclare_eq {name : String} (free : state.ensureFree name span = .ok ())
    (referent : Referent) (perspective : Perspective) :
    state.declareBinding name referent perspective span =
        .ok (state.addBinding name referent perspective span) ∧
      state.guardedDeclare name referent perspective span =
        .ok (state.addBinding name referent perspective span) := by
  have declared : state.declareBinding name referent perspective span =
      .ok (state.addBinding name referent perspective span) := by
    rw [declareBinding, free]
    rfl
  exact ⟨declared, by rw [guardedDeclare, declared]; rfl⟩

/-- A borrow changes no name. -/
theorem exists_ledger_of_tryBorrow {source : String} {extent : Extent} {mode : BorrowMode}
    {id : RecordId} {container : Container} {after : State}
    (passed : state.tryBorrow source extent mode span = .ok (some (id, container, after))) :
    ∃ ledger, after = { state with ledger } := by
  simp only [tryBorrow, Check.bind_eq_ok] at passed
  obtain ⟨reached, -, passed⟩ := passed
  cases reached with
  | none => simp at passed
  | some access =>
    simp only [Check.bind_eq_ok, Check.pure_eq_ok, Option.some.injEq, Prod.mk.injEq] at passed
    obtain ⟨region, -, ⟨_, _⟩, added, -, -, rfl⟩ := passed
    unfold addBorrow at added
    split at added
    · simp only [Check.bind_eq_ok, Check.pure_eq_ok, Prod.mk.injEq] at added
      obtain ⟨_, -, -, rfl⟩ := added
      exact ⟨_, rfl⟩
    · simp only [Except.ok.injEq, Prod.mk.injEq] at added
      exact ⟨_, added.2.symm⟩

/-! ## Transfers -/

/-- A moved head is inserted in range, also into the container that it was removed from. -/
theorem guardedCommit_move (fromSource : state.Reaches source) (toTarget : state.Reaches target)
    (passed : state.checkTransfer target source .move key conversion span = .ok transfer) :
    state.guardedCommit transfer span = .ok (none, state.commitMove transfer) := by
  obtain ⟨rfl, rfl, moves, sourcePassed, -, targetPassed⟩ := checkTransfer_eq_ok passed
  obtain ⟨-, head, -, -, -, -⟩ := Access.checkSource_eq_ok sourcePassed
  obtain ⟨-, -, places⟩ := Access.checkTarget_eq_ok targetPassed
  obtain ⟨placement, placed, planned⟩ := places (by decide)
  have fits := Access.fits_placement placed
  obtain ⟨container, found⟩ : ∃ container,
      (state.remove transfer.source (.singleton transfer.head)).2.container?
        transfer.target.container.id = some container := by
    rw [container?_remove, toTarget.container]
    split <;> exact ⟨_, rfl⟩
  have inRange : ∀ pair ∈ (if transfer.source.container.id = transfer.target.container.id then
        transfer.placements.map (·.afterRemoval transfer.head)
      else transfer.placements).zip transfer.slots, pair.1.Fits
        ((state.remove transfer.source (.singleton transfer.head)).2.content
          transfer.target.container.id) := by
    intro pair member
    have listed := (List.of_mem_zip member).1
    rw [planned] at listed
    by_cases same : transfer.source.container.id = transfer.target.container.id
    · have sameContainer : transfer.source.container = transfer.target.container :=
        Option.some.inj (fromSource.container.symm.trans (same ▸ toTarget.container))
      rw [if_pos same, List.map_singleton, List.mem_singleton] at listed
      rw [listed, head, ← same, content_removeHead fromSource, sameContainer]
      exact fits.afterRemoval
    · rw [if_neg same, List.mem_singleton] at listed
      rw [listed, content_remove_of_ne (Ne.symm same), toTarget.content]
      exact fits
  simp only [guardedCommit, moves, Effect.borrowMode?, reduceCtorEq, if_false]
  rw [guardedInsertAll_eq found inRange]
  rfl

/-- The slots of a take are inserted in range, one after another. -/
theorem guardedCommit_take (toTarget : state.Reaches target)
    (passed : state.checkTransfer target source .take key conversion span = .ok transfer) :
    state.guardedCommit transfer span = .ok (none, state.commitTake transfer span) := by
  obtain ⟨rfl, rfl, takes, sourcePassed, -, targetPassed⟩ := checkTransfer_eq_ok passed
  obtain ⟨-, -, another, -, -, -⟩ := Access.checkSource_eq_ok sourcePassed
  obtain ⟨-, places, -⟩ := Access.checkTarget_eq_ok targetPassed
  have different : transfer.target.container.id ≠ transfer.source.container.id := by
    intro same
    exact Effect.noConfusion (another same.symm)
  have found : (state.markMoved transfer.source.container.id span).container?
      transfer.target.container.id = some transfer.target.container := by
    rw [markMoved, container?_modifyContainer, if_neg different]
    exact toTarget.container
  have inRange := Access.fits_takePlacements (places rfl)
  rw [← content_eq found] at inRange
  simp only [guardedCommit, takes, Effect.borrowMode?, if_true]
  rw [guardedInsertAll_eq found inRange]
  rfl

/-- A reference is borrowed without a conflict and inserted in range. -/
theorem guardedCommit_reference (toTarget : state.Reaches target) {mode : BorrowMode}
    (reference : effect.borrowMode? = some mode)
    (passed : state.checkTransfer target source effect key conversion span = .ok transfer) :
    ∃ id after, state.commitReference transfer mode span = .ok (id, after) ∧
      state.guardedCommit transfer span = .ok (some id, after) := by
  obtain ⟨rfl, rfl, refers, sourcePassed, -, targetPassed⟩ := checkTransfer_eq_ok passed
  have untaken : effect ≠ .take := by
    rintro rfl
    contradiction
  obtain ⟨-, -, places⟩ := Access.checkTarget_eq_ok targetPassed
  obtain ⟨placement, placed, planned⟩ := places untaken
  let region : Region :=
    { container := transfer.source.container.id
      extent := .range (Int64.ofNat transfer.head) (Int64.ofNat transfer.head)
      slots := .singleton transfer.head
      mode
      scope := state.scopes.current
      span }
  obtain ⟨id, borrowed, added, same⟩ : ∃ id borrowed, state.addBorrow transfer.source.container
      region transfer.source.record? .referencePush span = .ok (id, borrowed) ∧
      borrowed.containers = state.containers :=
    exists_addBorrow rfl rfl (Access.checkSource_reference reference sourcePassed)
  have found : borrowed.container? transfer.target.container.id =
      some transfer.target.container := by
    rw [container?, same]
    exact toTarget.container
  have inRange : ∀ pair ∈ transfer.placements.zip transfer.slots,
      pair.1.Fits (borrowed.content transfer.target.container.id) := by
    intro pair member
    have listed := (List.of_mem_zip member).1
    rw [planned, List.mem_singleton] at listed
    rw [listed, content_eq found]
    exact Access.fits_placement placed
  have committed : state.commitReference transfer mode span = .ok (id,
      borrowed.insertAll transfer.target (transfer.placements.zip transfer.slots)) :=
    Check.bind_eq_ok.mpr ⟨_, Check.mapError_eq_ok.mpr added, rfl⟩
  refine ⟨id, _, committed, ?_⟩
  simp only [guardedCommit, refers, reference]
  exact Check.bind_eq_ok.mpr ⟨_, Check.mapError_eq_ok.mpr added,
    Check.bind_eq_ok.mpr ⟨_, guardedInsertAll_eq found inRange, rfl⟩⟩

/-- A transfer that passed its checks is carried out. -/
theorem guardedCommit_eq (fromSource : state.Reaches source) (toTarget : state.Reaches target)
    (passed : state.checkTransfer target source effect key conversion span = .ok transfer) :
    ∃ result, state.commitTransfer transfer span = .ok result ∧
      state.guardedCommit transfer span = .ok result := by
  obtain ⟨-, -, same, -, -, -⟩ := checkTransfer_eq_ok passed
  unfold commitTransfer
  rw [same]
  cases reference : effect.borrowMode? with
  | some mode =>
    obtain ⟨id, after, committed, guarded⟩ := guardedCommit_reference toTarget reference passed
    exact ⟨_, Check.bind_eq_ok.mpr ⟨_, committed, rfl⟩, guarded⟩
  | none =>
    cases effect with
    | move => exact ⟨_, rfl, guardedCommit_move fromSource toTarget passed⟩
    | take => exact ⟨_, rfl, guardedCommit_take toTarget passed⟩
    | borrow => contradiction
    | borrowMut => contradiction

/-! ## Operations -/

end State

/-- Two sequences that begin with a check agree when what follows it does. -/
theorem Check.bind_map_congr {ε α β γ : Type} {check : Except ε α} {next : α → Except ε β}
    {change : β → γ} {other : α → Except ε γ}
    (each : ∀ value, check = .ok value → other value = (next value).map change) :
    (check >>= other) = (check >>= next).map change := by
  cases check with
  | error fault => rfl
  | ok value => exact each value rfl

namespace State

variable {state : State} {name : String} {span : Span}

theorem guardedAccess_eq {act : Access → Except Diagnostic Outcome}
    {guarded : Access → Except Diagnostic (Except Fault Outcome)}
    (each : ∀ access, state.access name span = .ok (some access) →
      guarded access = (act access).map .ok) :
    state.guardedAccess name span guarded = (state.withAccess name span act).map .ok := by
  refine Check.bind_map_congr fun reached found => ?_
  cases reached with
  | none => rfl
  | some access => exact each access found

theorem guardedPush_eq (sound : state.Sound) (value : Value) (key : Option Value)
    (conversion : Option Conversion) :
    state.guardedPush name value key conversion span =
      (state.pushValue name value key conversion span).map .ok := by
  refine guardedAccess_eq fun access found => ?_
  obtain ⟨reaches, -⟩ := access_eq_ok sound found
  refine Check.bind_map_congr fun _ _ => Check.bind_map_congr fun converted _ =>
    Check.bind_map_congr fun placement placed => Check.bind_map_congr fun _ _ => ?_
  have fits := Access.fits_placement placed
  rw [← reaches.content] at fits
  rw [guardedInsert_eq fits]
  rfl

theorem guardedTransfer_eq (sound : state.Sound) (source : String) (effect : Effect)
    (key : Option Value) (conversion : Option Conversion) :
    state.guardedTransfer name source effect key conversion span =
      (state.transfer name source effect key conversion span).map .ok := by
  refine guardedAccess_eq fun target found => ?_
  obtain ⟨toTarget, -⟩ := access_eq_ok sound found
  refine Check.bind_map_congr fun reached found => ?_
  cases reached with
  | none => rfl
  | some source =>
    obtain ⟨fromSource, -⟩ := access_eq_ok sound (Check.mapError_eq_ok.mp found)
    refine Check.bind_map_congr fun transfer passed => ?_
    obtain ⟨result, committed, guarded⟩ := guardedCommit_eq fromSource toTarget passed
    rw [committed, guarded]
    rfl

theorem guardedPoisoned_eq (free : state.ensureFree name span = .ok ())
    (reports : List Diagnostic) :
    .ok (state.guardedPoisoned name reports span) =
      (state.declarePoisoned name reports span).map Except.ok := by
  obtain ⟨declared, guarded⟩ := guardedDeclare_eq free .poisoned .lifo
  rw [guardedPoisoned, declarePoisoned, declared, guarded]
  rfl

theorem guardedBind_eq (container : String) (perspective : Option Perspective) :
    state.guardedBind name container perspective span =
      (state.bind name container perspective span).map .ok := by
  refine Check.bind_map_congr fun _ free => ?_
  cases state.checkBind container perspective span with
  | error diagnostic => exact guardedPoisoned_eq free [diagnostic]
  | ok container =>
    obtain ⟨declared, guarded⟩ :=
      guardedDeclare_eq free (.direct container.id) (perspective.getD .lifo)
    dsimp only
    rw [declared, guarded]
    rfl

theorem guardedBorrow_eq (source : String) (extent : Extent) (mode : BorrowMode) :
    state.guardedBorrow name source extent mode span =
      (state.borrow name source extent mode span).map .ok := by
  refine Check.bind_map_congr fun _ free => ?_
  cases borrowed : state.tryBorrow source extent mode span with
  | error diagnostic => exact guardedPoisoned_eq free [diagnostic]
  | ok found =>
    match found with
    | none => exact guardedPoisoned_eq free []
    | some (id, container, after) =>
      obtain ⟨ledger, rfl⟩ := exists_ledger_of_tryBorrow borrowed
      obtain ⟨declared, guarded⟩ : _ ∧ _ :=
        @guardedDeclare_eq { state with ledger } span name free (.view id) .lifo
      dsimp only
      rw [declared, guarded]
      rfl

theorem guardedSettle_eq {guarded : Except Diagnostic (Except Fault Outcome)}
    {result : Except Diagnostic Outcome} (same : guarded = result.map .ok) :
    state.guardedSettle guarded = .ok (state.settle result) := by
  rw [same]
  cases result <;> rfl

/-- In a sound state no guard stops an operation. -/
theorem guardedPerform_eq (sound : state.Sound) (operation : Operation) :
    state.guardedPerform operation span = .ok (state.perform operation span) := by
  cases operation with
  | push binding source key conversion =>
    cases source with
    | value literal => exact guardedSettle_eq (guardedPush_eq sound literal key conversion)
    | transfer source effect =>
      exact guardedSettle_eq (guardedTransfer_eq sound source effect key conversion)
  | bind binding container perspective =>
    exact guardedSettle_eq (guardedBind_eq container perspective)
  | borrow binding source extent mode =>
    exact guardedSettle_eq (guardedBorrow_eq source extent mode)
  | _ => rfl

end State

/-- No commit fails.  Whatever was verified before, an operation under guard does what it does
without one: every replacement is in range, no reference meets a borrow, and no name that was found
to be free is declared twice. -/
theorem commits_run_through (nodes : List Node) (operation : Operation) (span : Span) :
    (Verification.run {} nodes).state.guardedPerform operation span =
      .ok ((Verification.run {} nodes).state.perform operation span) :=
  State.guardedPerform_eq (Verification.run_sound nodes) operation

end Custody
