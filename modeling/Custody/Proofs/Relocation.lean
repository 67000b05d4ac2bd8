import Mathlib.Tactic.Simps.Basic
import Custody.Verifier.Step

/-!
# Relocated states

Spans are kept all over the state of a verification: with scopes, containers, bindings and borrows,
and in the marks of what became of them.  To relocate is to move every one of them elsewhere.  What
is looked up in a relocated state is what was looked up before, relocated, since nothing that is
looked for is a span.
-/

namespace Custody

/-! ## Relocation -/

/-- An operation at another place. -/
@[simps] def Node.relocate (move : Span → Span) (node : Node) : Node where
  operation := node.operation
  span := move node.span

@[simps] def Related.relocate (move : Span → Span) (related : Related) : Related where
  span := move related.span
  relation := related.relation

@[simps] def Diagnostic.relocate (move : Span → Span) (diagnostic : Diagnostic) : Diagnostic where
  violation := diagnostic.violation
  span := move diagnostic.span
  related := diagnostic.related.map (·.relocate move)
  step := diagnostic.step

@[simps] def Scope.relocate (move : Span → Span) (scope : Scope) : Scope :=
  { scope with span := move scope.span }

@[simps] def ScopeTree.relocate (move : Span → Span) (tree : ScopeTree) : ScopeTree where
  scopes := tree.scopes.map (·.relocate move)
  path := tree.path

@[simp] def Liveness.relocate (move : Span → Span) : Liveness → Liveness
  | .live => .live
  | .destroyed span => .destroyed (move span)
  | .forgotten span => .forgotten (move span)
  | .released span => .released (move span)

@[simps] def Container.relocate (move : Span → Span) (container : Container) : Container :=
  { container with
    span := move container.span
    movedAt := container.movedAt.map move
    liveness := container.liveness.relocate move }

@[simps] def Transition.relocate (move : Span → Span) (transition : Transition) : Transition :=
  { transition with span := move transition.span }

@[simps] def Stance.relocate (move : Span → Span) (stance : Stance) : Stance where
  current := stance.current
  history := stance.history.map (·.relocate move)

@[simps] def Binding.relocate (move : Span → Span) (binding : Binding) : Binding :=
  { binding with
    stance := binding.stance.relocate move
    span := move binding.span
    capturedAt := binding.capturedAt.map move }

@[simps] def Region.relocate (move : Span → Span) (region : Region) : Region :=
  { region with span := move region.span }

@[simps toRegion id ledgered] def BorrowRecord.relocate (move : Span → Span)
    (record : BorrowRecord) : BorrowRecord where
  toRegion := record.toRegion.relocate move
  id := record.id
  ledgered := record.ledgered

@[simps] def Ledger.relocate (move : Span → Span) (ledger : Ledger) : Ledger where
  records := ledger.records.map (·.relocate move)
  pages := ledger.pages
  nextId := ledger.nextId

/-- A state with every span in it moved elsewhere. -/
@[simps] def State.relocate (move : Span → Span) (state : State) : State where
  scopes := state.scopes.relocate move
  containers := state.containers.map (·.relocate move)
  bindings := state.bindings.map (·.relocate move)
  ledger := state.ledger.relocate move
  deferred := state.deferred

@[simps] def Access.relocate (move : Span → Span) (access : Access) : Access where
  binding := access.binding.relocate move
  container := access.container.relocate move
  view := access.view.map (·.relocate move)

@[simps] def Outcome.relocate (move : Span → Span) (outcome : Outcome) : Outcome where
  state := outcome.state.relocate move
  verdict := outcome.verdict
  reports := outcome.reports.map (·.relocate move)

@[simps] def Closing.relocate (move : Span → Span) (closing : Closing) : Closing where
  state := closing.state.relocate move
  reports := closing.reports.map (·.relocate move)

@[simps] def AnnotatedNode.relocate (move : Span → Span) (annotated : AnnotatedNode) :
    AnnotatedNode where
  node := annotated.node.relocate move
  verdict := annotated.verdict

@[simps] def Program.relocate (move : Span → Span) (program : Program) : Program where
  nodes := program.nodes.map (·.relocate move)
  diagnostics := program.diagnostics.map (·.relocate move)
  strict := program.strict

/-- A change of one entry that commutes with a map of all. -/
theorem map_modify {α β : Type} {image : α → β} {before : α → α} {after : β → β}
    (natural : ∀ entry, after (image entry) = image (before entry)) (entries : List α)
    (index : Nat) :
    (entries.map image).modify index after = (entries.modify index before).map image := by
  apply List.ext_getElem?
  intro place
  simp only [List.getElem?_modify, List.getElem?_map]
  cases entries[place]? with
  | none => rfl
  | some entry =>
      simp only [Option.map_some, Option.map_eq_map]
      split
      · rw [natural]
      · rfl

section

variable (move : Span → Span)

/-! ## Scopes -/

namespace ScopeTree

variable (tree : ScopeTree)

@[simp] theorem current_relocate : (tree.relocate move).current = tree.current := rfl

@[simp] theorem get?_relocate (id : ScopeId) :
    (tree.relocate move).get? id = (tree.get? id).map (·.relocate move) :=
  List.getElem?_map

theorem modify_relocate {change : Scope → Scope}
    (natural : ∀ scope, change (scope.relocate move) = (change scope).relocate move)
    (id : ScopeId) :
    (tree.relocate move).modify id change = (tree.modify id change).relocate move := by
  simp only [modify, relocate, map_modify natural]

@[simp] theorem close_relocate (id : ScopeId) :
    (tree.relocate move).close id = (tree.close id).relocate move := by
  apply modify_relocate
  intro scope
  rfl

@[simp] theorem enter_relocate (kind : ScopeKind) (span : Span) :
    (tree.relocate move).enter kind (move span) =
      ((tree.enter kind span).1, (tree.enter kind span).2.relocate move) := by
  simp only [enter, current_relocate, get?_relocate, relocate_scopes, relocate_path,
    List.length_map, Option.map_map]
  simp only [relocate, List.map_append]
  rfl

@[simp] theorem exit?_relocate :
    (tree.relocate move).exit? = tree.exit?.map fun left => (left.1, left.2.relocate move) := by
  simp only [exit?, relocate_path]
  split
  · simp only [close_relocate, Option.map_some]
    rfl
  · rfl

@[simp] theorem closeRoot?_relocate :
    (tree.relocate move).closeRoot? =
      tree.closeRoot?.map fun left => (left.1, left.2.relocate move) := by
  simp only [closeRoot?, relocate_path]
  split
  · simp only [close_relocate, Option.map_some]
    rfl
  · rfl

@[simp] theorem isOpen_relocate (id : ScopeId) :
    (tree.relocate move).isOpen id = tree.isOpen id := by
  simp only [isOpen, get?_relocate]
  cases tree.get? id <;> rfl

@[simp] theorem reaches_relocate (outer : ScopeId) (steps : Nat) (inner : ScopeId) :
    (tree.relocate move).reaches outer steps inner = tree.reaches outer steps inner := by
  induction steps generalizing inner with
  | zero => rfl
  | succ steps ih =>
      simp only [reaches, get?_relocate, ih]
      cases tree.get? inner <;> rfl

@[simp] theorem outlives_relocate (outer inner : ScopeId) :
    (tree.relocate move).outlives outer inner = tree.outlives outer inner := by
  simp [outlives]

@[simp] theorem visible_relocate :
    (tree.relocate move).visible = tree.visible.map (·.relocate move) := by
  simp only [visible, relocate_path, List.map_filterMap]
  congr
  funext id
  exact tree.get?_relocate move id

@[simp] theorem findContainer?_relocate (name : String) :
    (tree.relocate move).findContainer? name = tree.findContainer? name := by
  simp [findContainer?, List.findSome?_map, Function.comp_def]

@[simp] theorem findBinding?_relocate (name : String) :
    (tree.relocate move).findBinding? name = tree.findBinding? name := by
  simp [findBinding?, List.findSome?_map, Function.comp_def]

@[simp] theorem currentScope?_relocate :
    (tree.relocate move).currentScope? = tree.currentScope?.map (·.relocate move) := by
  simp [currentScope?]

end ScopeTree

/-! ## Borrows -/

@[simp] theorem Occupancy.ofRecords_relocate (records : List BorrowRecord) :
    ofRecords (records.map (·.relocate move)) = ofRecords records := by
  simp only [ofRecords, List.filter_map, List.foldl_map]
  rfl

namespace Ledger

variable (ledger : Ledger)

@[simp] theorem page_relocate (container : ContainerId) :
    (ledger.relocate move).page container = ledger.page container := rfl

@[simp] theorem modifyPage_relocate (container : ContainerId) (change : Page → Page) :
    (ledger.relocate move).modifyPage container change =
      (ledger.modifyPage container change).relocate move := by
  simp only [modifyPage, relocate_pages]
  split <;> rfl

@[simp] theorem get?_relocate (id : RecordId) :
    (ledger.relocate move).get? id = (ledger.get? id).map (·.relocate move) := by
  simp only [get?, relocate_records, List.find?_map]
  rfl

@[simp] theorem recordsOn_relocate (container : ContainerId) :
    (ledger.relocate move).recordsOn container =
      (ledger.recordsOn container).map (·.relocate move) := by
  have lookup : (ledger.relocate move).get? = fun id =>
      (ledger.get? id).map (·.relocate move) := funext (get?_relocate move ledger)
  rw [recordsOn, page_relocate, lookup, recordsOn, List.map_filterMap]

@[simp] theorem firstOn?_relocate (container : ContainerId) (except : Option RecordId) :
    (ledger.relocate move).firstOn? container except =
      (ledger.firstOn? container except).map (·.relocate move) := by
  simp only [firstOn?, recordsOn_relocate, List.find?_map]
  rfl

@[simp] theorem firstConflict_relocate (container : ContainerId) (footprint : SlotSet)
    (except : Option RecordId) (mutableOnly : Bool) :
    (ledger.relocate move).firstConflict container footprint except mutableOnly =
      (ledger.firstConflict container footprint except mutableOnly).mapError
        (·.relocate move) := by
  simp only [firstConflict, recordsOn_relocate, List.find?_map, Function.comp_def,
    BorrowRecord.relocate_id, BorrowRecord.relocate_ledgered, BorrowRecord.relocate_toRegion,
    Region.relocate_mode, Region.relocate_slots]
  generalize List.find? _ (ledger.recordsOn container) = found
  cases found <;> rfl

@[simp] theorem checkWrite_relocate (container : ContainerId) (footprint : SlotSet)
    (except : Option RecordId) :
    (ledger.relocate move).checkWrite container footprint except =
      (ledger.checkWrite container footprint except).mapError (·.relocate move) := by
  simp only [checkWrite, page_relocate, firstConflict_relocate]
  split <;> rfl

@[simp] theorem checkRead_relocate (container : ContainerId) (footprint : SlotSet)
    (except : Option RecordId) :
    (ledger.relocate move).checkRead container footprint except =
      (ledger.checkRead container footprint except).mapError (·.relocate move) := by
  simp only [checkRead, page_relocate, firstConflict_relocate]
  split <;> rfl

@[simp] theorem insert_relocate (region : Region) (ledgered : Bool) :
    (ledger.relocate move).insert (region.relocate move) ledgered =
      ((ledger.insert region ledgered).1, (ledger.insert region ledgered).2.relocate move) := by
  simp only [insert, relocate, List.map_append]
  rfl

theorem modify_relocate {change : BorrowRecord → BorrowRecord}
    (natural : ∀ record, change (record.relocate move) = (change record).relocate move)
    (id : RecordId) :
    (ledger.relocate move).modify id change = (ledger.modify id change).relocate move := by
  simp only [modify, relocate, List.map_map, mk.injEq, and_true]
  apply List.map_congr_left
  intro record _
  simp only [Function.comp_apply, BorrowRecord.relocate_id]
  split
  · rw [natural]
  · rfl

@[simp] theorem setHolder_relocate (id : RecordId) (holder : BindingId) :
    (ledger.relocate move).setHolder id holder = (ledger.setHolder id holder).relocate move := by
  apply modify_relocate
  intro record
  rfl

@[simp] theorem recount_relocate (container : ContainerId) :
    (ledger.relocate move).recount container = (ledger.recount container).relocate move := by
  simp [recount]

@[simp] theorem rebase_relocate (id : RecordId) (slots : SlotSet) :
    (ledger.relocate move).rebase id slots = (ledger.rebase id slots).relocate move := by
  simp only [rebase, get?_relocate]
  cases ledger.get? id with
  | none => rfl
  | some record =>
      simp only [Option.map_some]
      rw [modify_relocate, recount_relocate]
      · rfl
      · intro record
        rfl

@[simp] theorem release_relocate (id : RecordId) :
    (ledger.relocate move).release id =
      ((ledger.release id).1.map (·.relocate move), (ledger.release id).2.relocate move) := by
  simp only [release, get?_relocate]
  cases ledger.get? id with
  | none => rfl
  | some record =>
      simp only [Option.map_some, ← recount_relocate, ← modifyPage_relocate]
      simp only [relocate, List.filter_map]
      rfl

@[simp] theorem releaseAll_relocate (ids : List RecordId) :
    releaseAll ids (ledger.relocate move) =
      ((releaseAll ids ledger).1.map (·.relocate move),
        (releaseAll ids ledger).2.relocate move) := by
  induction ids generalizing ledger with
  | nil => rfl
  | cons id rest ih =>
      simp only [releaseAll, release_relocate, ih, List.map_append]
      cases (ledger.release id).1 <;> rfl

@[simp] theorem releaseScope_relocate (scope : ScopeId) :
    (ledger.relocate move).releaseScope scope =
      ((ledger.releaseScope scope).1.map (·.relocate move),
        (ledger.releaseScope scope).2.relocate move) := by
  simp only [releaseScope, relocate_records, List.filter_map, List.map_map]
  exact releaseAll_relocate move ledger _

@[simp] theorem borrow_relocate (region : Region) (except : Option RecordId) :
    (ledger.relocate move).borrow (region.relocate move) except =
      ((ledger.borrow region except).map fun added => (added.1, added.2.relocate move)).mapError
        (·.relocate move) := by
  simp only [borrow, Region.relocate_mode, Region.relocate_container, Region.relocate_slots,
    checkWrite_relocate, checkRead_relocate, insert_relocate]
  split
  · cases ledger.checkWrite region.container region.slots except <;> rfl
  · cases ledger.checkRead region.container region.slots except <;> rfl

@[simp] theorem recordUnchecked_relocate (region : Region) :
    (ledger.relocate move).recordUnchecked (region.relocate move) =
      ((ledger.recordUnchecked region).1, (ledger.recordUnchecked region).2.relocate move) :=
  insert_relocate ..

end Ledger

/-! ## Checks -/

namespace Check

variable {α β γ δ : Type}

/-- The result of a check with its finding relocated. -/
def relocate (change : α → β) : Except Diagnostic α → Except Diagnostic β
  | .ok value => .ok (change value)
  | .error diagnostic => .error (diagnostic.relocate move)

/-- The result of a check whose value has no span in it. -/
abbrev relocated (check : Except Diagnostic α) : Except Diagnostic α :=
  relocate move (fun value => value) check

@[simp] theorem relocate_ok (change : α → β) (value : α) :
    relocate move change (.ok value) = .ok (change value) := rfl

/-- What follows a relocated check is relocated if it is for every value. -/
theorem relocate_bind {move : Span → Span} {change : α → β} {later : γ → δ}
    {check : Except Diagnostic α} {next : α → Except Diagnostic γ}
    {other : β → Except Diagnostic δ}
    (natural : ∀ value, other (change value) = relocate move later (next value)) :
    relocate move change check >>= other = relocate move later (check >>= next) := by
  cases check with
  | ok value => exact natural value
  | error diagnostic => rfl

theorem relocate_ite {move : Span → Span} {change : α → β} {condition : Prop}
    [Decidable condition] {first second : Except Diagnostic α} :
    relocate move change (if condition then first else second) =
      if condition then relocate move change first else relocate move change second := by
  split <;> rfl

theorem relocate_branch {move : Span → Span} {change : α → β} {condition : Prop}
    [Decidable condition] {first second : Except Diagnostic α}
    {other another : Except Diagnostic β} (yes : other = relocate move change first)
    (no : another = relocate move change second) :
    (if condition then other else another) =
      relocate move change (if condition then first else second) := by
  rw [relocate_ite, yes, no]

@[simp] theorem relocate_inStep (change : α → β) (check : Except Diagnostic α)
    (step : TransferStep) :
    (relocate move change check).mapError (·.inStep step) =
      relocate move change (check.mapError (·.inStep step)) := by
  cases check <;> rfl

@[simp] theorem relocate_mapM (check other : α → Except Diagnostic β)
    (natural : ∀ member, other member = relocated move (check member)) (members : List α) :
    members.mapM other = relocated move (members.mapM check) := by
  induction members with
  | nil => rfl
  | cons first rest ih =>
      rw [List.mapM_cons, List.mapM_cons, natural, ih]
      apply relocate_bind
      intro value
      apply relocate_bind
      intro values
      rfl

end Check

@[simp] theorem Diagnostic.kind_relocate (diagnostic : Diagnostic) :
    (diagnostic.relocate move).kind = diagnostic.kind := rfl

@[simp] theorem Diagnostic.message_relocate (diagnostic : Diagnostic) :
    (diagnostic.relocate move).message = diagnostic.message := rfl

@[simp] theorem Diagnostic.relocate_about (violation : Violation) (span earlier : Span)
    (relation : Relation) :
    (about violation span earlier relation).relocate move =
      about violation (move span) (move earlier) relation := rfl

/-! ## Containers and bindings -/

namespace Container

variable (container : Container)

@[simp] theorem isMoved_relocate : (container.relocate move).isMoved = container.isMoved := by
  simp [isMoved]

@[simp] theorem isKeyed_relocate : (container.relocate move).isKeyed = container.isKeyed := rfl

@[simp] theorem length_relocate : (container.relocate move).length = container.length := rfl

@[simp] theorem markMoved_relocate (span : Span) :
    (container.relocate move).markMoved (move span) =
      (container.markMoved span).relocate move := rfl

@[simp] theorem relocate_live_iff :
    (container.relocate move).liveness = .live ↔ container.liveness = .live := by
  simp only [relocate_liveness]
  cases container.liveness <;> simp

@[simp] theorem ensureUsable_relocate (span : Span) :
    (container.relocate move).ensureUsable (move span) =
      Check.relocated move (container.ensureUsable span) := by
  simp only [ensureUsable, relocate_movedAt, relocate_liveness, relocate_name]
  cases container.movedAt with
  | some earlier => rfl
  | none => cases container.liveness <;> rfl

@[simp] theorem positionOfKey_relocate (keyType : Element) (key : Value) (span : Span) :
    (container.relocate move).positionOfKey keyType key (move span) =
      Check.relocated move (container.positionOfKey keyType key span) := by
  simp only [positionOfKey, relocate_name, relocate_content]
  split
  · rfl
  · split <;> rfl

@[simp] theorem resolve_relocate (extent : Extent) (span : Span) :
    (container.relocate move).resolve extent (move span) =
      Check.relocated move (container.resolve extent span) := by
  simp only [resolve, length_relocate, relocate_name, relocate_key, relocate_element]
  cases extent with
  | range low high =>
      dsimp only
      split
      · rfl
      · split
        · rfl
        · split <;> rfl
  | keys members =>
      cases container.key with
      | none => rfl
      | some keyType =>
          dsimp only
          split
          · rfl
          · rw [Check.relocate_mapM move _ _ fun key => positionOfKey_relocate ..]
            apply Check.relocate_bind
            intro positions
            rfl

end Container

namespace Binding

variable (binding : Binding)

@[simp] theorem perspective_relocate :
    (binding.relocate move).perspective = binding.perspective := rfl

@[simp] theorem origin_relocate : (binding.relocate move).origin = move binding.origin := by
  simp only [origin, relocate_capturedAt, relocate_span]
  cases binding.capturedAt <;> rfl

end Binding

namespace Stance

variable (stance : Stance)

@[simp] theorem change_relocate (target : Perspective) (span : Span) :
    (stance.relocate move).change target (move span) =
      (stance.change target span).relocate move := by
  simp [change, relocate, Transition.relocate]

@[simp] theorem set_relocate (target : Perspective) (keyed : Bool) (span : Span) :
    (stance.relocate move).set target keyed (move span) =
      Check.relocate move (fun found => (found.1, found.2.relocate move))
        (stance.set target keyed span) := by
  simp only [set, relocate_current, change_relocate, Check.relocate_ite]
  rfl

@[simp] theorem flip_relocate (span : Span) :
    (stance.relocate move).flip (move span) =
      Check.relocate move (·.relocate move) (stance.flip span) := by
  simp only [flip, relocate_current, change_relocate]
  cases stance.current.flipped? <;> rfl

end Stance

@[simp] theorem Access.record?_relocate (access : Access) :
    (access.relocate move).record? = access.record? := by
  simp only [record?, relocate_view, Option.map_map]
  rfl

/-! ## States -/

namespace State

variable (state : State)

@[simp] theorem container?_relocate (id : ContainerId) :
    (state.relocate move).container? id = (state.container? id).map (·.relocate move) :=
  List.getElem?_map

@[simp] theorem binding?_relocate (id : BindingId) :
    (state.relocate move).binding? id = (state.binding? id).map (·.relocate move) :=
  List.getElem?_map

theorem modifyContainer_relocate {before after : Container → Container}
    (natural : ∀ container, after (container.relocate move) = (before container).relocate move)
    (id : ContainerId) :
    (state.relocate move).modifyContainer id after =
      (state.modifyContainer id before).relocate move := by
  simp only [modifyContainer, relocate, map_modify natural]

theorem modifyBinding_relocate {before after : Binding → Binding}
    (natural : ∀ binding, after (binding.relocate move) = (before binding).relocate move)
    (id : BindingId) :
    (state.relocate move).modifyBinding id after =
      (state.modifyBinding id before).relocate move := by
  simp only [modifyBinding, relocate, map_modify natural]

@[simp] theorem content_relocate (id : ContainerId) :
    (state.relocate move).content id = state.content id := by
  simp only [content, container?_relocate]
  cases state.container? id <;> rfl

@[simp] theorem setContent_relocate (id : ContainerId) (content : Content) :
    (state.relocate move).setContent id content =
      (state.setContent id content).relocate move := by
  apply modifyContainer_relocate
  intro container
  rfl

@[simp] theorem markMoved_relocate (id : ContainerId) (span : Span) :
    (state.relocate move).markMoved id (move span) =
      (state.markMoved id span).relocate move := by
  apply modifyContainer_relocate
  intro container
  rfl

@[simp] theorem poison_relocate (id : BindingId) :
    (state.relocate move).poison id = (state.poison id).relocate move := by
  apply modifyBinding_relocate
  intro binding
  rfl

@[simp] theorem liveBindings_relocate :
    (state.relocate move).liveBindings = state.liveBindings.map (·.relocate move) := by
  simp only [liveBindings, relocate_bindings, relocate_scopes, ScopeTree.isOpen_relocate,
    List.filter_map]
  rfl

@[simp] theorem lookupContainer_relocate (name : String) (span : Span) :
    (state.relocate move).lookupContainer name (move span) =
      Check.relocate move (·.relocate move) (state.lookupContainer name span) := by
  simp only [lookupContainer, relocate_scopes, ScopeTree.findContainer?_relocate]
  cases state.scopes.findContainer? name with
  | none => rfl
  | some id =>
      simp only [Option.bind_some, container?_relocate]
      cases state.container? id <;> rfl

@[simp] theorem lookupBinding_relocate (name : String) (span : Span) :
    (state.relocate move).lookupBinding name (move span) =
      Check.relocate move (·.relocate move) (state.lookupBinding name span) := by
  simp only [lookupBinding, relocate_scopes, ScopeTree.findBinding?_relocate]
  cases state.scopes.findBinding? name with
  | none => rfl
  | some id =>
      simp only [Option.bind_some, binding?_relocate]
      cases state.binding? id <;> rfl

@[simp] theorem declaredHere?_relocate (name : String) :
    (state.relocate move).declaredHere? name =
      (state.declaredHere? name).map (·.relocate move) := by
  simp only [declaredHere?, relocate_scopes, ScopeTree.currentScope?_relocate]
  cases state.scopes.currentScope? with
  | none => rfl
  | some scope =>
      simp only [Option.map_some, Option.bind_some, Scope.relocate_containers]
      cases scope.containers.get? name with
      | none => rfl
      | some id => exact state.container?_relocate move id

@[simp] theorem boundHere?_relocate (name : String) :
    (state.relocate move).boundHere? name = (state.boundHere? name).map (·.relocate move) := by
  simp only [boundHere?, relocate_scopes, ScopeTree.currentScope?_relocate]
  cases state.scopes.currentScope? with
  | none => rfl
  | some scope =>
      simp only [Option.map_some, Option.bind_some, Scope.relocate_bindings]
      cases scope.bindings.get? name with
      | none => rfl
      | some id => exact state.binding?_relocate move id

@[simp] theorem register_relocate (name : String) (element : Element) (key : Option Element)
    (mode : Mode) (span : Span) :
    (state.relocate move).register name element key mode (move span) =
      Check.relocate move (fun added => (added.1.relocate move, added.2.relocate move))
        (state.register name element key mode span) := by
  have scopes : (state.scopes.relocate move).modify state.scopes.current (fun scope =>
        { scope with
          containers := scope.containers.insert name ⟨state.containers.length⟩
          declared := scope.declared ++ [⟨state.containers.length⟩] }) =
      (state.scopes.modify state.scopes.current fun scope =>
        { scope with
          containers := scope.containers.insert name ⟨state.containers.length⟩
          declared := scope.declared ++ [⟨state.containers.length⟩] }).relocate move := by
    apply ScopeTree.modify_relocate
    intro scope
    rfl
  simp only [register, declaredHere?_relocate, relocate_scopes, relocate_containers,
    List.length_map, ScopeTree.current_relocate, scopes]
  cases state.declaredHere? name with
  | none =>
      simp only [Option.map_none, Check.relocate_ok, relocate, List.map_append]
      rfl
  | some earlier =>
      simp only [Option.map_some, Container.isMoved_relocate, Check.relocate_ite,
        Check.relocate_ok, relocate, List.map_append]
      rfl

@[simp] theorem ensureFree_relocate (name : String) (span : Span) :
    (state.relocate move).ensureFree name (move span) =
      Check.relocated move (state.ensureFree name span) := by
  simp only [ensureFree, boundHere?_relocate]
  cases state.boundHere? name <;> rfl

@[simp] theorem addBinding_relocate (name : String) (referent : Referent)
    (perspective : Perspective) (span : Span) :
    (state.relocate move).addBinding name referent perspective (move span) =
      ((state.addBinding name referent perspective span).1.relocate move,
        (state.addBinding name referent perspective span).2.relocate move) := by
  have scopes : (state.scopes.relocate move).modify state.scopes.current (fun scope =>
        { scope with bindings := scope.bindings.insert name ⟨state.bindings.length⟩ }) =
      (state.scopes.modify state.scopes.current fun scope =>
        { scope with
          bindings := scope.bindings.insert name ⟨state.bindings.length⟩ }).relocate move := by
    apply ScopeTree.modify_relocate
    intro scope
    rfl
  simp only [addBinding, relocate_scopes, relocate_bindings, List.length_map,
    ScopeTree.current_relocate, scopes]
  simp only [relocate, List.map_append]
  rfl

@[simp] theorem declareBinding_relocate (name : String) (referent : Referent)
    (perspective : Perspective) (span : Span) :
    (state.relocate move).declareBinding name referent perspective (move span) =
      Check.relocate move (fun added => (added.1.relocate move, added.2.relocate move))
        (state.declareBinding name referent perspective span) := by
  simp only [declareBinding, ensureFree_relocate, addBinding_relocate]
  apply Check.relocate_bind
  intro _
  rfl

@[simp] theorem accessOf?_relocate (binding : Binding) :
    (state.relocate move).accessOf? (binding.relocate move) =
      (state.accessOf? binding).map (·.relocate move) := by
  simp only [accessOf?, Binding.relocate_referent, container?_relocate, relocate_ledger,
    Ledger.get?_relocate]
  cases binding.referent with
  | direct id =>
      dsimp only
      cases state.container? id <;> rfl
  | view id =>
      dsimp only
      cases state.ledger.get? id with
      | none => rfl
      | some record =>
          simp only [Option.map_some, Option.bind_some, BorrowRecord.relocate_toRegion,
            Region.relocate_container]
          cases state.container? record.container <;> rfl
  | poisoned => rfl

@[simp] theorem access_relocate (name : String) (span : Span) :
    (state.relocate move).access name (move span) =
      Check.relocate move (Option.map (·.relocate move)) (state.access name span) := by
  simp only [State.access, lookupBinding_relocate]
  apply Check.relocate_bind
  intro binding
  rw [accessOf?_relocate]
  rfl

/-- An operation on what a name reaches is relocated if it is for every access. -/
theorem withAccess_relocate {act other : Access → Except Diagnostic Outcome}
    (natural : ∀ access, other (access.relocate move) =
      Check.relocate move (·.relocate move) (act access)) (name : String) (span : Span) :
    (state.relocate move).withAccess name (move span) other =
      Check.relocate move (·.relocate move) (state.withAccess name span act) := by
  simp only [withAccess, access_relocate]
  apply Check.relocate_bind
  intro found
  cases found with
  | none => rfl
  | some access => exact natural access

@[simp] theorem describeAccess_relocate (access : Access) (values : List (Option Value)) :
    (state.relocate move).describeAccess (access.relocate move) values =
      state.describeAccess access values := by
  simp only [describeAccess, Access.relocate_container, Access.relocate_binding,
    Container.relocate_id, Binding.relocate_id, container?_relocate, binding?_relocate,
    Access.record?_relocate]
  cases state.container? access.container.id <;> cases state.binding? access.binding.id <;> rfl

end State

end

end Custody
