import Mathlib.Data.List.Forall2
import Custody.Proofs.Relocation

/-!
# Spans decide nothing

Every operation does to a relocated state what it does to the state itself, relocated.  So streams
that differ in their spans only are verified alike: they get the same verdicts, and findings of the
same kind and wording about the same things.
-/

namespace Custody

section

variable (move : Span → Span)

/-! ## Checks on an access -/

@[simp] theorem Value.convertFor_relocate (value : Value) (conversion : Option Conversion)
    (target : Element) (span : Span) :
    value.convertFor conversion target (move span) =
      Check.relocated move (value.convertFor conversion target span) := by
  cases conversion with
  | none =>
      simp only [convertFor, Check.relocate_ite]
      rfl
  | some kind =>
      simp only [convertFor]
      cases value.convert kind target <;> rfl

namespace Access

variable (access source target : Access) (ledger : Ledger) (span : Span)

@[simp] theorem ensureWritable_relocate (action : WriteAction) :
    (access.relocate move).ensureWritable action (move span) =
      Check.relocated move (access.ensureWritable action span) := by
  simp only [ensureWritable, relocate_container, relocate_view, Container.ensureUsable_relocate]
  apply Check.relocate_bind
  intro _
  simp only [Check.relocate_ite]
  cases access.view with
  | none => rfl
  | some record =>
      simp only [Option.map_some, Check.relocate_ite]
      rfl

@[simp] theorem ensureUnborrowed_relocate (footprint : SlotSet) (attempt : Attempt) :
    (access.relocate move).ensureUnborrowed (ledger.relocate move) footprint attempt (move span) =
      Check.relocated move (access.ensureUnborrowed ledger footprint attempt span) := by
  simp only [ensureUnborrowed, relocate_container, Container.relocate_mode, Container.relocate_id,
    record?_relocate, Ledger.checkWrite_relocate, Check.relocate_ite]
  cases ledger.checkWrite access.container.id footprint access.record? <;> rfl

@[simp] theorem ensureReadable_relocate (footprint : SlotSet) (attempt : Attempt) :
    (access.relocate move).ensureReadable (ledger.relocate move) footprint attempt (move span) =
      Check.relocated move (access.ensureReadable ledger footprint attempt span) := by
  simp only [ensureReadable, relocate_container, Container.relocate_mode, Container.relocate_id,
    record?_relocate, Ledger.checkRead_relocate, Check.relocate_ite]
  cases ledger.checkRead access.container.id footprint access.record? <;> rfl

@[simp] theorem removal_relocate (extent : Option Extent) :
    (access.relocate move).removal extent (move span) =
      Check.relocated move (access.removal extent span) := by
  simp only [removal, relocate_container, relocate_binding, Container.resolve_relocate]
  split <;> simp only [Check.relocate_ite] <;> rfl

@[simp] theorem checkPop_relocate (extent : Option Extent) :
    (access.relocate move).checkPop (ledger.relocate move) extent (move span) =
      Check.relocated move (access.checkPop ledger extent span) := by
  simp only [checkPop, ensureWritable_relocate, removal_relocate, ensureUnborrowed_relocate,
    relocate_view]
  apply Check.relocate_bind
  intro _
  apply Check.relocate_bind
  intro removed
  cases access.view with
  | none =>
      apply Check.relocate_bind
      intro _
      rfl
  | some record =>
      refine Check.relocate_branch rfl ?_
      apply Check.relocate_bind
      intro _
      rfl

@[simp] theorem reading_relocate (extent : Option Extent) :
    (access.relocate move).reading extent (move span) =
      Check.relocated move (access.reading extent span) := by
  simp only [reading, relocate_container, relocate_binding, Container.resolve_relocate]
  cases extent with
  | none =>
      simp only [Check.relocate_ite]
      rfl
  | some extent => rfl

@[simp] theorem checkPeek_relocate (extent : Option Extent) :
    (access.relocate move).checkPeek (ledger.relocate move) extent (move span) =
      Check.relocated move (access.checkPeek ledger extent span) := by
  simp only [checkPeek, relocate_container, Container.ensureUsable_relocate, reading_relocate,
    ensureReadable_relocate, relocate_view]
  apply Check.relocate_bind
  intro _
  apply Check.relocate_bind
  intro slots
  cases access.view with
  | none =>
      apply Check.relocate_bind
      intro _
      rfl
  | some record =>
      refine Check.relocate_branch rfl ?_
      apply Check.relocate_bind
      intro _
      rfl

@[simp] theorem placement_relocate (key : Option Value) :
    (access.relocate move).placement key (move span) =
      Check.relocated move (access.placement key span) := by
  simp only [placement, relocate_container, relocate_binding, Binding.perspective_relocate,
    Container.relocate_key, Container.relocate_name, Container.relocate_content,
    Container.isKeyed_relocate]
  split
  · rfl
  · split
    · rfl
    · simp only [Check.relocate_ite]
      rfl
  · simp only [Check.relocate_ite]
    rfl
  · rfl
  · rfl

@[simp] theorem checkInsertions_relocate (placements : List Placement) :
    (access.relocate move).checkInsertions (ledger.relocate move) placements (move span) =
      Check.relocated move (access.checkInsertions ledger placements span) := by
  simp only [checkInsertions, ensureUnborrowed_relocate, relocate_view]
  cases access.view with
  | none => rfl
  | some record =>
      simp only [Option.map_some, BorrowRecord.relocate_toRegion, Region.relocate_slots,
        relocate_container, Container.length_relocate]
      split <;> rfl

@[simp] theorem ensureHeadInView_relocate (head : Nat) :
    (access.relocate move).ensureHeadInView head (move span) =
      Check.relocated move (access.ensureHeadInView head span) := by
  simp only [ensureHeadInView, relocate_view]
  cases access.view with
  | none => rfl
  | some record => exact Check.relocate_branch rfl rfl

@[simp] theorem checkMove_relocate (head : Nat) :
    (source.relocate move).checkMove (ledger.relocate move) head (move span) =
      Check.relocated move (source.checkMove ledger head span) := by
  simp only [checkMove, ensureWritable_relocate, ensureHeadInView_relocate,
    ensureUnborrowed_relocate]
  apply Check.relocate_bind
  intro _
  apply Check.relocate_bind
  intro _
  rfl

@[simp] theorem checkTake_relocate :
    (source.relocate move).checkTake (ledger.relocate move) (move span) =
      Check.relocated move (source.checkTake ledger span) := by
  simp only [checkTake, relocate_container, relocate_view, Option.isSome_map,
    Container.relocate_id, Ledger.firstOn?_relocate]
  refine Check.relocate_branch rfl ?_
  refine Check.relocate_branch rfl ?_
  cases ledger.firstOn? source.container.id none <;> rfl

@[simp] theorem checkReference_relocate (effect : Effect) (mode : BorrowMode) (head : Nat) :
    (source.relocate move).checkReference (ledger.relocate move) effect mode head (move span) =
      Check.relocated move (source.checkReference ledger effect mode head span) := by
  simp only [checkReference, relocate_view, ensureHeadInView_relocate, ensureUnborrowed_relocate,
    ensureReadable_relocate]
  refine Check.relocate_branch rfl ?_
  cases source.view with
  | none =>
      apply Check.relocate_bind
      intro _
      exact Check.relocate_branch rfl rfl
  | some record =>
      refine Check.relocate_branch rfl ?_
      apply Check.relocate_bind
      intro _
      exact Check.relocate_branch rfl rfl

@[simp] theorem checkSource_relocate (effect : Effect) :
    (source.relocate move).checkSource (target.relocate move) (ledger.relocate move) effect
      (move span) = Check.relocated move (source.checkSource target ledger effect span) := by
  simp only [checkSource, relocate_container, Container.ensureUsable_relocate, checkMove_relocate,
    checkTake_relocate, checkReference_relocate]
  apply Check.relocate_bind
  intro _
  refine Check.relocate_branch rfl ?_
  refine Check.relocate_branch rfl ?_
  cases effect <;>
  · apply Check.relocate_bind
    intro _
    rfl

theorem convertSlot_relocate (kind : Option Conversion) (found wanted : Element) (slot : Slot) :
    convertSlot kind found wanted (move span) slot =
      Check.relocated move (convertSlot kind found wanted span slot) := by
  unfold convertSlot
  split
  · rename_i value kind _
    cases value.convert kind wanted <;> rfl
  · rfl

@[simp] theorem convertSlots_relocate (effect : Effect) (conversion : Option Conversion)
    (head : Nat) :
    (source.relocate move).convertSlots (target.relocate move) effect conversion head
      (move span) =
      Check.relocated move (source.convertSlots target effect conversion head span) := by
  simp only [convertSlots, relocate_container, Container.relocate_element,
    Container.relocate_content, Container.relocate_name]
  have each (kind : Option Conversion) (slots : List Slot) :
      slots.mapM (convertSlot kind source.container.element target.container.element
        (move span)) =
      Check.relocated move (slots.mapM
        (convertSlot kind source.container.element target.container.element span)) :=
    Check.relocate_mapM move _ _ (convertSlot_relocate move span kind _ _) slots
  cases conversion with
  | none =>
      refine Check.relocate_branch ?_ (Check.relocate_branch rfl (each none _))
      exact Check.relocate_branch rfl (Check.relocate_branch rfl (each none _))
  | some kind =>
      refine Check.relocate_branch rfl ?_
      dsimp only
      cases kind.resolve source.container.element target.container.element with
      | ok resolved => exact each (some resolved) _
      | error _ => rfl

theorem placeTaken_relocate (slot : Slot) :
    placeTaken (source.relocate move) (target.relocate move) (move span) slot =
      Check.relocated move (placeTaken source target span slot) := by
  simp only [placeTaken, relocate_container, Container.relocate_content, Container.relocate_name]
  cases slot.key <;> rfl

@[simp] theorem takePlacements_relocate (slots : List Slot) :
    takePlacements (source.relocate move) (target.relocate move) slots (move span) =
      Check.relocated move (takePlacements source target slots span) := by
  simp only [takePlacements, relocate_container, relocate_binding, Binding.perspective_relocate,
    Container.relocate_key, Container.relocate_name]
  cases target.binding.perspective with
  | lifo => rfl
  | fifo => rfl
  | hashed =>
      refine Check.relocate_branch rfl ?_
      exact Check.relocate_mapM move _ _ (placeTaken_relocate move source target span) slots

@[simp] theorem checkTarget_relocate (effect : Effect) (key : Option Value) (slots : List Slot) :
    (target.relocate move).checkTarget (source.relocate move) (ledger.relocate move) effect key
      slots (move span) =
      Check.relocated move (target.checkTarget source ledger effect key slots span) := by
  simp only [checkTarget, ensureWritable_relocate, takePlacements_relocate, placement_relocate,
    checkInsertions_relocate]
  apply Check.relocate_bind
  intro _
  refine Check.relocate_branch (Check.relocate_branch rfl ?_) ?_
  · apply Check.relocate_bind
    intro placements
    apply Check.relocate_bind
    intro _
    rfl
  · apply Check.relocate_bind
    intro placement
    apply Check.relocate_bind
    intro _
    rfl

end Access

/-! ## Pushes, pops and transfers -/

@[simps] def Transfer.relocate (transfer : Transfer) : Transfer where
  target := transfer.target.relocate move
  source := transfer.source.relocate move
  effect := transfer.effect
  head := transfer.head
  slots := transfer.slots
  placements := transfer.placements

namespace State

variable (state : State) (access : Access) (name : String) (span : Span)

@[simp] theorem remove_relocate (removed : SlotSet) :
    (state.relocate move).remove (access.relocate move) removed =
      ((state.remove access removed).1, (state.remove access removed).2.relocate move) := by
  simp only [remove, Access.relocate_container, Container.relocate_id, content_relocate,
    setContent_relocate, Access.record?_relocate, relocate_ledger]
  cases access.record? with
  | none => rfl
  | some id =>
      simp only [Option.bind_some, Ledger.get?_relocate]
      cases state.ledger.get? id with
      | none => rfl
      | some record =>
          simp only [Option.map_some, BorrowRecord.relocate_id, BorrowRecord.relocate_toRegion,
            Region.relocate_slots, Ledger.rebase_relocate]
          rfl

@[simp] theorem insert_relocate (placement : Placement) (slot : Slot) :
    (state.relocate move).insert (access.relocate move) placement slot =
      (state.insert access placement slot).relocate move := by
  simp only [insert, Access.relocate_container, Container.relocate_id, content_relocate,
    setContent_relocate, Access.record?_relocate, relocate_ledger]
  cases access.record? with
  | none => rfl
  | some id =>
      simp only [Option.bind_some, Ledger.get?_relocate]
      cases state.ledger.get? id with
      | none => rfl
      | some record =>
          simp only [Option.map_some, BorrowRecord.relocate_id, BorrowRecord.relocate_toRegion,
            Region.relocate_slots, Ledger.rebase_relocate]
          cases placement <;> rfl

@[simp] theorem insertAll_relocate (planned : List (Placement × Slot)) :
    (state.relocate move).insertAll (access.relocate move) planned =
      (state.insertAll access planned).relocate move := by
  induction planned generalizing state with
  | nil => rfl
  | cons first rest ih =>
      simp only [insertAll, Access.relocate_container, Container.relocate_id, content_relocate,
        insert_relocate, ih]

@[simp] theorem addBorrow_relocate (container : Container) (region : Region)
    (except : Option RecordId) (attempt : Attempt) :
    (state.relocate move).addBorrow (container.relocate move) (region.relocate move) except attempt
      (move span) =
      Check.relocate move (fun added => (added.1, added.2.relocate move))
        (state.addBorrow container region except attempt span) := by
  simp only [addBorrow, Container.relocate_mode, relocate_ledger, Ledger.borrow_relocate,
    Ledger.recordUnchecked_relocate]
  refine Check.relocate_branch ?_ rfl
  cases state.ledger.borrow region except <;> rfl

@[simp] theorem pop_relocate (extent : Option Extent) :
    (state.relocate move).pop name extent (move span) =
      Check.relocate move (·.relocate move) (state.pop name extent span) := by
  apply withAccess_relocate
  intro access
  rw [relocate_ledger, Access.checkPop_relocate]
  apply Check.relocate_bind
  intro removed
  simp only [remove_relocate, describeAccess_relocate]
  rfl

@[simp] theorem peek_relocate (extent : Option Extent) :
    (state.relocate move).peek name extent (move span) =
      Check.relocate move (·.relocate move) (state.peek name extent span) := by
  apply withAccess_relocate
  intro access
  rw [relocate_ledger, Access.checkPeek_relocate]
  apply Check.relocate_bind
  intro slots
  simp only [describeAccess_relocate]
  rfl

@[simp] theorem pushValue_relocate (value : Value) (key : Option Value)
    (conversion : Option Conversion) :
    (state.relocate move).pushValue name value key conversion (move span) =
      Check.relocate move (·.relocate move) (state.pushValue name value key conversion span) := by
  apply withAccess_relocate
  intro access
  simp only [Access.ensureWritable_relocate, Access.relocate_container,
    Container.relocate_element, Value.convertFor_relocate, Access.placement_relocate,
    relocate_ledger, Access.checkInsertions_relocate, insert_relocate, describeAccess_relocate]
  apply Check.relocate_bind
  intro _
  apply Check.relocate_bind
  intro converted
  apply Check.relocate_bind
  intro placement
  apply Check.relocate_bind
  intro _
  rfl

@[simp] theorem checkTransfer_relocate (target source : Access) (effect : Effect)
    (key : Option Value) (conversion : Option Conversion) :
    (state.relocate move).checkTransfer (target.relocate move) (source.relocate move) effect key
      conversion (move span) =
      Check.relocate move (·.relocate move)
        (state.checkTransfer target source effect key conversion span) := by
  simp only [checkTransfer, relocate_ledger, Access.checkSource_relocate,
    Access.convertSlots_relocate, Access.checkTarget_relocate, Check.relocate_inStep]
  apply Check.relocate_bind
  intro head
  apply Check.relocate_bind
  intro converted
  apply Check.relocate_bind
  intro placements
  rfl

@[simp] theorem commitMove_relocate (transfer : Transfer) :
    (state.relocate move).commitMove (transfer.relocate move) =
      (state.commitMove transfer).relocate move := by
  simp only [commitMove, Transfer.relocate_source, Transfer.relocate_target,
    Transfer.relocate_head, Transfer.relocate_placements, Transfer.relocate_slots,
    remove_relocate, insertAll_relocate]
  rfl

@[simp] theorem commitTake_relocate (transfer : Transfer) :
    (state.relocate move).commitTake (transfer.relocate move) (move span) =
      (state.commitTake transfer span).relocate move := by
  simp only [commitTake, Transfer.relocate_source, Transfer.relocate_target,
    Transfer.relocate_placements, Transfer.relocate_slots, Access.relocate_container,
    Container.relocate_id, markMoved_relocate, insertAll_relocate]

@[simp] theorem commitReference_relocate (transfer : Transfer) (mode : BorrowMode) :
    (state.relocate move).commitReference (transfer.relocate move) mode (move span) =
      Check.relocate move (fun added => (added.1, added.2.relocate move))
        (state.commitReference transfer mode span) := by
  let region : Region :=
    { container := transfer.source.container.id
      extent := .range (Int64.ofNat transfer.head) (Int64.ofNat transfer.head)
      slots := .singleton transfer.head
      mode
      scope := state.scopes.current
      span }
  have added := state.addBorrow_relocate move span transfer.source.container region
    transfer.source.record? .referencePush
  have region_relocate : region.relocate move = { region with span := move span } := rfl
  simp only [commitReference, Transfer.relocate_source, Transfer.relocate_target,
    Transfer.relocate_head, Transfer.relocate_placements, Transfer.relocate_slots,
    Access.relocate_container, Access.record?_relocate, Container.relocate_id, relocate_scopes,
    ScopeTree.current_relocate]
  rw [region_relocate] at added
  rw [added, Check.relocate_inStep]
  apply Check.relocate_bind
  intro added
  simp only [insertAll_relocate]
  rfl

@[simp] theorem commitTransfer_relocate (transfer : Transfer) :
    (state.relocate move).commitTransfer (transfer.relocate move) (move span) =
      Check.relocate move (fun added => (added.1, added.2.relocate move))
        (state.commitTransfer transfer span) := by
  simp only [commitTransfer, Transfer.relocate_effect, commitReference_relocate,
    commitTake_relocate, commitMove_relocate]
  cases transfer.effect.borrowMode? with
  | some mode =>
      apply Check.relocate_bind
      intro added
      rfl
  | none => exact Check.relocate_branch rfl rfl

@[simp] theorem transfer_relocate (source : String) (effect : Effect) (key : Option Value)
    (conversion : Option Conversion) :
    (state.relocate move).transfer name source effect key conversion (move span) =
      Check.relocate move (·.relocate move)
        (state.transfer name source effect key conversion span) := by
  apply withAccess_relocate
  intro target
  simp only [access_relocate, Check.relocate_inStep]
  apply Check.relocate_bind
  intro found
  cases found with
  | none => rfl
  | some source =>
      simp only [Option.map_some, checkTransfer_relocate]
      apply Check.relocate_bind
      intro transfer
      simp only [commitTransfer_relocate]
      apply Check.relocate_bind
      intro added
      simp only [describeAccess_relocate]
      rfl

/-! ## New names -/

@[simp] theorem declare_relocate (element : Element) (key : Option Element) (mode : Mode) :
    (state.relocate move).declare name element key mode (move span) =
      Check.relocate move (·.relocate move) (state.declare name element key mode span) := by
  simp only [declare, register_relocate]
  apply Check.relocate_bind
  intro added
  rfl

@[simp] theorem checkBind_relocate (perspective : Option Perspective) :
    (state.relocate move).checkBind name perspective (move span) =
      Check.relocate move (·.relocate move) (state.checkBind name perspective span) := by
  simp only [checkBind, lookupContainer_relocate]
  apply Check.relocate_bind
  intro container
  rw [Container.ensureUsable_relocate]
  apply Check.relocate_bind
  intro _
  exact Check.relocate_branch rfl rfl

@[simp] theorem declarePoisoned_relocate (reports : List Diagnostic) :
    (state.relocate move).declarePoisoned name (reports.map (·.relocate move)) (move span) =
      Check.relocate move (·.relocate move) (state.declarePoisoned name reports span) := by
  simp only [declarePoisoned, declareBinding_relocate]
  apply Check.relocate_bind
  intro added
  rfl

@[simp] theorem bind_relocate (container : String) (perspective : Option Perspective) :
    (state.relocate move).bind name container perspective (move span) =
      Check.relocate move (·.relocate move) (state.bind name container perspective span) := by
  simp only [bind, ensureFree_relocate, checkBind_relocate]
  apply Check.relocate_bind
  intro _
  cases state.checkBind container perspective span with
  | ok container =>
      simp only [Check.relocate_ok, Container.relocate_id, declareBinding_relocate]
      apply Check.relocate_bind
      intro added
      rfl
  | error diagnostic => exact declarePoisoned_relocate move state name span [diagnostic]

@[simp] theorem checkBorrow_relocate (extent : Extent) (mode : BorrowMode) :
    (state.relocate move).checkBorrow (access.relocate move) extent mode (move span) =
      Check.relocate move (·.relocate move) (state.checkBorrow access extent mode span) := by
  simp only [checkBorrow, Access.relocate_container, Container.ensureUsable_relocate,
    Container.resolve_relocate, Access.relocate_view, relocate_scopes,
    ScopeTree.outlives_relocate]
  apply Check.relocate_bind
  intro _
  refine Check.relocate_branch rfl ?_
  apply Check.relocate_bind
  intro slots
  cases access.view with
  | none => exact Check.relocate_branch rfl rfl
  | some outer =>
      refine Check.relocate_branch rfl (Check.relocate_branch rfl ?_)
      exact Check.relocate_branch rfl rfl

@[simp] theorem tryBorrow_relocate (extent : Extent) (mode : BorrowMode) :
    (state.relocate move).tryBorrow name extent mode (move span) =
      Check.relocate move (Option.map fun made =>
        (made.1, made.2.1.relocate move, made.2.2.relocate move))
        (state.tryBorrow name extent mode span) := by
  simp only [tryBorrow, access_relocate]
  apply Check.relocate_bind
  intro found
  cases found with
  | none => rfl
  | some access =>
      simp only [Option.map_some, checkBorrow_relocate, Access.relocate_container,
        Container.relocate_name, Access.record?_relocate]
      apply Check.relocate_bind
      intro region
      rw [addBorrow_relocate]
      apply Check.relocate_bind
      intro added
      rfl

@[simp] theorem borrow_relocate (source : String) (extent : Extent) (mode : BorrowMode) :
    (state.relocate move).borrow name source extent mode (move span) =
      Check.relocate move (·.relocate move) (state.borrow name source extent mode span) := by
  simp only [borrow, ensureFree_relocate, tryBorrow_relocate]
  apply Check.relocate_bind
  intro _
  cases state.tryBorrow source extent mode span with
  | error diagnostic => exact declarePoisoned_relocate move state name span [diagnostic]
  | ok made =>
      cases made with
      | none => exact declarePoisoned_relocate move state name span []
      | some made =>
          simp only [Check.relocate_ok, Option.map_some, declareBinding_relocate]
          apply Check.relocate_bind
          intro added
          simp only [relocate_ledger, Binding.relocate_id, Ledger.setHolder_relocate]
          rfl

/-! ## Captures and releases -/

@[simp] theorem checkCapture_relocate (target source : Binding) :
    (state.relocate move).checkCapture (target.relocate move) (source.relocate move) (move span) =
      Check.relocate move (Option.map (·.relocate move))
        (state.checkCapture target source span) := by
  simp only [checkCapture, Binding.relocate_referent, relocate_ledger, Ledger.get?_relocate,
    container?_relocate, relocate_scopes, ScopeTree.outlives_relocate]
  cases source.referent with
  | poisoned => rfl
  | view id =>
      dsimp only
      cases state.ledger.get? id with
      | none => rfl
      | some record => exact Check.relocate_branch rfl rfl
  | direct id =>
      dsimp only
      cases state.container? id with
      | none => rfl
      | some container =>
          simp only [Option.map_some, Container.ensureUsable_relocate]
          apply Check.relocate_bind
          intro _
          rfl

@[simp] theorem checkCaptureTypes_relocate (target source : Binding) (container : Container) :
    (state.relocate move).checkCaptureTypes (target.relocate move) (source.relocate move)
      (container.relocate move) (move span) =
      Check.relocated move (state.checkCaptureTypes target source container span) := by
  simp only [checkCaptureTypes, accessOf?_relocate]
  cases state.accessOf? target with
  | none => rfl
  | some current => exact Check.relocate_branch rfl rfl

@[simp] theorem capture_relocate (source : String) :
    (state.relocate move).capture name source (move span) =
      Check.relocate move (·.relocate move) (state.capture name source span) := by
  simp only [capture, lookupBinding_relocate]
  apply Check.relocate_bind
  intro target
  apply Check.relocate_bind
  intro source
  refine Check.relocate_branch rfl ?_
  rw [checkCapture_relocate]
  apply Check.relocate_bind
  intro found
  cases found with
  | none => rfl
  | some container =>
      simp only [Option.map_some, checkCaptureTypes_relocate]
      apply Check.relocate_bind
      intro _
      let captured : Binding := { target with referent := source.referent, capturedAt := some span }
      have after : (state.relocate move).modifyBinding target.id (fun _ =>
            captured.relocate move) =
          (state.modifyBinding target.id fun _ => captured).relocate move := by
        apply modifyBinding_relocate
        intro _
        rfl
      have same : ⟨target.id, target.name, target.scope, source.referent,
          target.stance.relocate move, move target.span, some (move span)⟩ =
        captured.relocate move := rfl
      simp only [Binding.relocate_id, Binding.relocate_name, Binding.relocate_scope,
        Binding.relocate_referent, Binding.relocate_stance, Binding.relocate_span, same, after,
        accessOf?_relocate]
      cases (state.modifyBinding target.id fun _ => captured).accessOf? captured with
      | none => rfl
      | some access =>
          simp only [Option.map_some, describeAccess_relocate]
          rfl

@[simp] theorem checkTaskCapture_relocate (capture : Capture) :
    (state.relocate move).checkTaskCapture capture (move span) =
      Check.relocated move (state.checkTaskCapture capture span) := by
  simp only [checkTaskCapture, lookupBinding_relocate]
  apply Check.relocate_bind
  intro binding
  rw [accessOf?_relocate]
  cases state.accessOf? binding with
  | none => rfl
  | some access =>
      obtain ⟨binding, container, view⟩ := access
      cases view with
      | some record => exact Check.relocate_branch rfl rfl
      | none =>
          simp only [Option.map_some, Access.relocate, Option.map_none,
            Container.ensureUsable_relocate]
          apply Check.relocate_bind
          intro _
          refine Check.relocate_branch (Check.relocate_branch rfl rfl) ?_
          refine Check.relocate_branch rfl (Check.relocate_branch rfl ?_)
          simp only [relocate_ledger, Container.relocate_id, Ledger.firstOn?_relocate]
          cases state.ledger.firstOn? container.id none <;> rfl

theorem failures_relocate (results : List (Except Diagnostic (Option ContainerId))) :
    failures (results.map (Check.relocated move)) =
      (failures results).map (·.relocate move) := by
  simp only [failures, List.filterMap_map, List.map_filterMap]
  congr
  funext result
  cases result <;> rfl

theorem foldl_markMoved_relocate (ids : List ContainerId) :
    ids.foldl (fun state id => state.markMoved id (move span)) (state.relocate move) =
      (ids.foldl (fun state id => state.markMoved id span) state).relocate move := by
  induction ids generalizing state with
  | nil => rfl
  | cons id rest ih => rw [List.foldl_cons, List.foldl_cons, markMoved_relocate, ih]

@[simp] theorem spawn_relocate (captures : List Capture) :
    (state.relocate move).spawn captures (move span) =
      (state.spawn captures span).relocate move := by
  have results : captures.map (fun capture =>
        (state.relocate move).checkTaskCapture capture (move span)) =
      (captures.map fun capture => state.checkTaskCapture capture span).map
        (Check.relocated move) := by
    simp
  have moved (found : List (Except Diagnostic (Option ContainerId))) :
      (found.map (Check.relocated move)).filterMap (fun result => result.toOption.bind id) =
        found.filterMap fun result => result.toOption.bind id := by
    rw [List.filterMap_map]
    congr
    funext result
    cases result <;> rfl
  simp only [spawn, results, failures_relocate, List.isEmpty_map, moved, foldl_markMoved_relocate]
  split <;> rfl

@[simp] theorem release_relocate :
    (state.relocate move).release name (move span) =
      Check.relocate move (·.relocate move) (state.release name span) := by
  apply withAccess_relocate
  intro access
  simp only [Access.relocate_container, Container.ensureUsable_relocate, Access.relocate_view,
    Option.isSome_map]
  apply Check.relocate_bind
  intro _
  refine Check.relocate_branch rfl (Check.relocate_branch rfl ?_)
  have released : (state.relocate move).modifyContainer access.container.id (fun container =>
        { container with liveness := .released (move span) }) =
      (state.modifyContainer access.container.id fun container =>
        { container with liveness := .released span }).relocate move := by
    apply modifyContainer_relocate
    intro container
    rfl
  let kept : State :=
    { state.modifyContainer access.container.id fun container =>
        { container with liveness := .released span } with
      deferred := state.deferred.filter (· ≠ access.container.id) }
  have verdict := kept.describeAccess_relocate move access []
  simp only [Container.relocate_id, released]
  exact congrArg (fun verdict => Except.ok (⟨kept.relocate move, verdict, []⟩ : Outcome)) verdict

/-! ## Perspectives -/

theorem restance_relocate (id : BindingId) (stance : Stance) :
    (state.relocate move).modifyBinding id (fun binding =>
        { binding with stance := stance.relocate move }) =
      (state.modifyBinding id fun binding => { binding with stance }).relocate move := by
  apply modifyBinding_relocate
  intro binding
  rfl

@[simp] theorem setPerspective_relocate (perspective : Perspective) :
    (state.relocate move).setPerspective name perspective (move span) =
      Check.relocate move (·.relocate move) (state.setPerspective name perspective span) := by
  apply withAccess_relocate
  intro access
  simp only [Access.relocate_binding, Access.relocate_container, Container.isKeyed_relocate,
    Binding.relocate_stance, Stance.set_relocate]
  apply Check.relocate_bind
  intro found
  simp only [Binding.relocate_id, restance_relocate, describeAccess_relocate]
  rfl

@[simp] theorem flip_relocate :
    (state.relocate move).flip name (move span) =
      Check.relocate move (·.relocate move) (state.flip name span) := by
  apply withAccess_relocate
  intro access
  simp only [Access.relocate_binding, Binding.relocate_stance, Stance.flip_relocate]
  apply Check.relocate_bind
  intro stance
  simp only [Binding.relocate_id, restance_relocate, describeAccess_relocate]
  rfl

@[simp] theorem choose_relocate (arms : List Perspective) (fallback : Bool) :
    (state.relocate move).choose name arms fallback (move span) =
      Check.relocate move (·.relocate move) (state.choose name arms fallback span) := by
  apply withAccess_relocate
  intro access
  simp only [describeAccess_relocate, Access.relocate_container, Container.isKeyed_relocate,
    Check.relocate_ok, Outcome.relocate]
  split <;> rfl

/-! ## Scopes -/

@[simp] theorem enterScope_relocate (kind : ScopeKind) :
    (state.relocate move).enterScope kind (move span) =
      (state.enterScope kind span).relocate move := by
  simp only [enterScope, relocate_scopes, ScopeTree.enter_relocate]
  rfl

theorem poisonAll_relocate (cause : Binding → LifetimeBreach)
    (natural : ∀ binding, cause (binding.relocate move) = cause binding)
    (bindings : List Binding) :
    (state.relocate move).poisonAll (bindings.map (·.relocate move)) cause (move span) =
      (state.poisonAll bindings cause span).relocate move := by
  have poisoned : (bindings.map (·.relocate move)).foldl
        (fun state binding => state.poison binding.id) (state.relocate move) =
      (bindings.foldl (fun state binding => state.poison binding.id) state).relocate move := by
    induction bindings generalizing state with
    | nil => rfl
    | cons binding rest ih =>
        simp only [List.map_cons, List.foldl_cons, Binding.relocate_id, poison_relocate]
        exact ih _
  simp only [poisonAll, poisoned, Closing.relocate, List.map_map, Closing.mk.injEq, true_and]
  apply List.map_congr_left
  intro binding _
  simp only [Function.comp_apply, natural, Binding.origin_relocate, Diagnostic.relocate_about]

@[simp] theorem destroy_relocate (container : Container) :
    (state.relocate move).destroy (container.relocate move) (move span) =
      (state.destroy container span).relocate move := by
  have destroyed : (state.relocate move).modifyContainer container.id (fun container =>
        { container with liveness := .destroyed (move span) }) =
      (state.modifyContainer container.id fun container =>
        { container with liveness := .destroyed span }).relocate move := by
    apply modifyContainer_relocate
    intro container
    rfl
  simp only [destroy, Container.relocate_id, Container.relocate_name, destroyed,
    liveBindings_relocate, List.filter_map]
  apply poisonAll_relocate
  intro binding
  rfl

@[simp] theorem endContainer_relocate (id : ContainerId) :
    (state.relocate move).endContainer id (move span) =
      (state.endContainer id span).relocate move := by
  have forgotten : (state.relocate move).modifyContainer id (fun container =>
        { container with liveness := .forgotten (move span) }) =
      (state.modifyContainer id fun container =>
        { container with liveness := .forgotten span }).relocate move := by
    apply modifyContainer_relocate
    intro container
    rfl
  simp only [endContainer, container?_relocate]
  cases state.container? id with
  | none => rfl
  | some container =>
      simp only [Option.map_some, Container.isMoved_relocate, ne_eq, Container.relocate_live_iff,
        Container.relocate_mode, destroy_relocate, forgotten]
      split
      · rfl
      · split <;> rfl

@[simp] theorem endContainers_relocate (ids : List ContainerId) :
    (state.relocate move).endContainers ids (move span) =
      (state.endContainers ids span).relocate move := by
  have along (closing : Closing) :
      ids.foldl (fun closing id =>
          ⟨(closing.state.endContainer id (move span)).state,
            closing.reports ++ (closing.state.endContainer id (move span)).reports⟩)
          (closing.relocate move) =
        (ids.foldl (fun closing id =>
          ⟨(closing.state.endContainer id span).state,
            closing.reports ++ (closing.state.endContainer id span).reports⟩)
          closing).relocate move := by
    induction ids generalizing closing with
    | nil => rfl
    | cons id rest ih =>
        simp only [List.foldl_cons, Closing.relocate_state, Closing.relocate_reports,
          endContainer_relocate, ← List.map_append]
        exact ih ⟨(closing.state.endContainer id span).state,
          closing.reports ++ (closing.state.endContainer id span).reports⟩
  exact along ⟨state, []⟩

@[simp] theorem viewsOn_relocate (records : List BorrowRecord) :
    (state.relocate move).viewsOn (records.map (·.relocate move)) =
      (state.viewsOn records).map (·.relocate move) := by
  simp only [viewsOn, liveBindings_relocate, List.filter_map, List.any_map]
  rfl

@[simp] theorem closeScope_relocate (scope : ScopeId) :
    (state.relocate move).closeScope scope (move span) =
      (state.closeScope scope span).relocate move := by
  have declared : ((state.scopes.get? scope).map (·.relocate move)).map (·.declared) =
      (state.scopes.get? scope).map (·.declared) := by
    rw [Option.map_map]
    rfl
  have released (ledger : Ledger) : State.mk (state.scopes.relocate move)
      (state.containers.map (·.relocate move)) (state.bindings.map (·.relocate move))
      (ledger.relocate move) state.deferred = { state with ledger }.relocate move := rfl
  have stale (after : State) (bindings : List Binding) :=
    after.poisonAll_relocate move span (fun binding => .staleView binding.name)
      (fun _ => rfl) bindings
  simp only [closeScope, relocate_ledger, Ledger.releaseScope_relocate, relocate_scopes,
    ScopeTree.get?_relocate, declared, relocate_containers, relocate_bindings, relocate_deferred,
    released, endContainers_relocate, Closing.relocate_state, Closing.relocate_reports,
    viewsOn_relocate, stale]
  simp only [Closing.relocate, List.map_append]

@[simp] theorem exitScope?_relocate :
    (state.relocate move).exitScope? (move span) =
      (state.exitScope? span).map (·.relocate move) := by
  simp only [exitScope?, relocate_scopes, ScopeTree.exit?_relocate]
  cases state.scopes.exit? with
  | none => rfl
  | some left =>
      exact congrArg some (closeScope_relocate move { state with scopes := left.2 } span left.1)

@[simp] theorem exitAll_relocate (count : Nat) :
    exitAll count (state.relocate move) (move span) =
      (exitAll count state span).relocate move := by
  induction count generalizing state with
  | zero => rfl
  | succ count ih =>
      simp only [exitAll, exitScope?_relocate]
      cases state.exitScope? span with
      | none => rfl
      | some closing =>
          simp only [Option.map_some, ih, Closing.relocate, List.map_append]

@[simp] theorem closeRoot_relocate :
    (state.relocate move).closeRoot (move span) = (state.closeRoot span).relocate move := by
  simp only [closeRoot, relocate_scopes, ScopeTree.closeRoot?_relocate]
  cases state.scopes.closeRoot? with
  | none => rfl
  | some left => exact closeScope_relocate move { state with scopes := left.2 } span left.1

@[simp] theorem closeAll_reports_relocate :
    ((state.relocate move).closeAll (move span)).reports =
      (state.closeAll span).reports.map (·.relocate move) := by
  simp only [closeAll, relocate_scopes, ScopeTree.relocate_path, exitAll_relocate,
    Closing.relocate_state, closeRoot_relocate, Closing.relocate_reports, List.map_append]

@[simp] theorem exitScope_relocate :
    (state.relocate move).exitScope (move span) = (state.exitScope span).relocate move := by
  simp only [exitScope, exitScope?_relocate]
  cases state.exitScope? span <;> rfl

theorem settle_relocate (checked : Except Diagnostic Outcome) :
    (state.relocate move).settle (Check.relocate move (·.relocate move) checked) =
      (state.settle checked).relocate move := by
  cases checked <;> rfl

/-- What is found out about an operation does not depend on where it is. -/
theorem perform_relocate (operation : Operation) :
    (state.relocate move).perform operation (move span) =
      (state.perform operation span).relocate move := by
  cases operation with
  | push binding operand =>
      cases operand with
      | value => simp only [perform, pushValue_relocate, settle_relocate]
      | transfer => simp only [perform, transfer_relocate, settle_relocate]
  | enterScope => simp only [perform, enterScope_relocate]
  | exitScope => simp only [perform, exitScope_relocate]
  | spawn => simp only [perform, spawn_relocate]
  | _ =>
      simp only [perform, declare_relocate, bind_relocate, pop_relocate, peek_relocate,
        borrow_relocate, setPerspective_relocate, flip_relocate, capture_relocate,
        release_relocate, choose_relocate, settle_relocate]

end State

/-! ## Runs -/

namespace Verification

/-- A verification with every span in it moved elsewhere. -/
@[simps] def relocate (verification : Verification) : Verification where
  state := verification.state.relocate move
  nodes := verification.nodes.map (·.relocate move)
  diagnostics := verification.diagnostics.map (·.relocate move)
  last := move verification.last

theorem step_relocate (verification : Verification) (node : Node) :
    (verification.relocate move).step (node.relocate move) =
      (verification.step node).relocate move := by
  simp only [step, relocate, Node.relocate_operation, Node.relocate_span, State.perform_relocate,
    Outcome.relocate, List.map_append]
  rfl

theorem run_relocate (verification : Verification) (nodes : List Node) :
    (verification.relocate move).run (nodes.map (·.relocate move)) =
      (verification.run nodes).relocate move := by
  induction nodes generalizing verification with
  | nil => rfl
  | cons node rest ih =>
      simp only [run, List.map_cons, List.foldl_cons, step_relocate]
      exact ih (verification.step node)

variable {move}

/-- The outermost scope is at the default place, and so is the end of an empty stream. -/
theorem relocate_initial (fixed : move {} = {}) : relocate move {} = {} := by
  simp [relocate, State.relocate, ScopeTree.relocate, ScopeTree.initial, Scope.relocate,
    Ledger.relocate, fixed]

/-- A stream that is moved elsewhere is verified alike, and its findings move with it. -/
theorem verify_relocate (fixed : move {} = {}) (nodes : List Node) (strict : Bool) :
    verify (nodes.map (·.relocate move)) strict = (verify nodes strict).relocate move := by
  have moved := run_relocate move {} nodes
  rw [relocate_initial fixed] at moved
  simp only [verify, finish, moved, relocate_state, relocate_last, relocate_nodes,
    relocate_diagnostics, State.closeAll_reports_relocate, ← List.map_append]
  rfl

end Verification

end

/-! ## Streams that differ in their spans -/

/-- Two streams of the same operations are equal once every span is forgotten. -/
theorem Node.map_relocate_eq {nodes others : List Node}
    (same : nodes.map (·.operation) = others.map (·.operation)) :
    nodes.map (·.relocate fun _ => {}) = others.map (·.relocate fun _ => {}) := by
  have forget (stream : List Node) : stream.map (·.relocate fun _ => {}) =
      (stream.map (·.operation)).map fun operation => ⟨operation, {}⟩ := by
    rw [List.map_map]
    rfl
  rw [forget, forget, same]

namespace Verification

/-- Where the operations are decides nothing: of two streams with the same operations, each
operation gets the same verdict, and the findings agree one by one but for their places. -/
theorem spans_inert (nodes others : List Node) (strict : Bool)
    (same : nodes.map (·.operation) = others.map (·.operation)) :
    (verify nodes strict).nodes.map (·.verdict) = (verify others strict).nodes.map (·.verdict) ∧
      List.Forall₂
        (fun left right => left.kind = right.kind ∧ left.message = right.message ∧
          left.related.map (·.relation.note) = right.related.map (·.relation.note))
        (verify nodes strict).diagnostics (verify others strict).diagnostics := by
  have forgotten : (verify nodes strict).relocate (fun _ => {}) =
      (verify others strict).relocate fun _ => {} := by
    rw [← verify_relocate rfl, ← verify_relocate rfl, Node.map_relocate_eq same]
  constructor
  · have verdicts := congrArg (fun program => program.nodes.map (·.verdict)) forgotten
    simpa [Function.comp_def] using verdicts
  · have findings := congrArg Program.diagnostics forgotten
    rw [Program.relocate_diagnostics, Program.relocate_diagnostics, ← List.forall₂_eq_eq_eq,
      List.forall₂_map_left_iff, List.forall₂_map_right_iff] at findings
    apply findings.imp
    intro left right alike
    refine ⟨?_, ?_, ?_⟩
    · rw [← Diagnostic.kind_relocate fun _ => {}, alike, Diagnostic.kind_relocate]
    · rw [← Diagnostic.message_relocate fun _ => {}, alike, Diagnostic.message_relocate]
    · have notes := congrArg (fun diagnostic => diagnostic.related.map (·.relation.note)) alike
      simpa [Function.comp_def] using notes

/-- A name that is declared again on the same line, and one that is on the next. -/
theorem spans_inert_redeclared :
    let declared : Operation := .declare "x" .integer none .owned
    let nodes : List Node := [⟨declared, ⟨1, 1, 0, 7⟩⟩, ⟨declared, ⟨1, 10, 9, 7⟩⟩]
    let others : List Node := [⟨declared, ⟨1, 1, 0, 7⟩⟩, ⟨declared, ⟨2, 1, 8, 7⟩⟩]
    nodes.map (·.operation) = others.map (·.operation) ∧
      (verify nodes false).diagnostics ≠ (verify others false).diagnostics ∧
      (verify nodes false).nodes.map (·.verdict) = (verify others false).nodes.map (·.verdict) ∧
      List.Forall₂
        (fun left right => left.kind = right.kind ∧ left.message = right.message ∧
          left.related.map (·.relation.note) = right.related.map (·.relation.note))
        (verify nodes false).diagnostics (verify others false).diagnostics :=
  ⟨rfl, by decide, spans_inert _ _ false rfl⟩

end Verification

end Custody
