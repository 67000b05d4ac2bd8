import Mathlib.Data.List.Infix
import Custody.Proofs.Runs

/-!
# Blocks

A block is a scope that is entered, a body whose own scopes nest, and the exit that closes it.
Inside the block only the current scope gets new names and new borrows, and it is none of those that
were open before; its exit takes its borrows along.  So when the block is left the same scopes are
open, they know the same names, and the same borrows are active.
-/

namespace Custody

/-- The active borrows with the scopes that own them, in the order of their creation. -/
def Ledger.owners (ledger : Ledger) : List (RecordId × ScopeId) :=
  ledger.records.map fun record => (record.id, record.scope)

namespace Ledger

theorem owners_modify (ledger : Ledger) (id : RecordId) (change : BorrowRecord → BorrowRecord)
    (keeps : ∀ record, (change record).id = record.id ∧ (change record).scope = record.scope) :
    (ledger.modify id change).owners = ledger.owners := by
  rw [owners, records_modify, List.map_map]
  apply List.map_congr_left
  intro record _
  rw [Function.comp_apply]
  split
  · rw [(keeps record).1, (keeps record).2]
  · rfl

theorem owners_rebase (ledger : Ledger) (id : RecordId) (slots : SlotSet) :
    (ledger.rebase id slots).owners = ledger.owners := by
  rw [owners, records_rebase]
  exact owners_modify ledger id (fun record => { record with slots }) fun _ => ⟨rfl, rfl⟩

theorem owners_insert (ledger : Ledger) (region : Region) (ledgered : Bool) :
    (ledger.insert region ledgered).2.owners =
      ledger.owners ++ [(⟨ledger.nextId⟩, region.scope)] := by
  rw [owners, records_insert, List.map_append]
  rfl

theorem owners_releaseScope {ledger : Ledger} (wf : ledger.WellFormed) (scope : ScopeId) :
    (ledger.releaseScope scope).2.owners = ledger.owners.filter (·.2 ≠ scope) := by
  rw [owners, records_releaseScope wf, owners, List.filter_map]
  rfl

end Ledger

namespace State

variable {state after : State} {name : String} {span : Span} {outcome : Outcome}

/-! ## Operations inside a scope -/

/-- The open scopes stay open, only the current one gets new names, and new borrows belong to
it. -/
structure Confined (state after : State) : Prop where
  path : after.scopes.path = state.scopes.path
  scope : ∀ id, id ≠ state.scopes.current → after.scopes.get? id = state.scopes.get? id
  owners : ∃ added, after.ledger.owners = state.ledger.owners ++ added ∧
    ∀ entry ∈ added, entry.2 = state.scopes.current

theorem confined_of_eq (scopes : after.scopes = state.scopes)
    (owners : after.ledger.owners = state.ledger.owners) : state.Confined after where
  path := by rw [scopes]
  scope := by
    intro id _
    rw [scopes]
  owners := ⟨[], by rw [owners, List.append_nil], by simp⟩

theorem Confined.refl (state : State) : state.Confined state :=
  confined_of_eq rfl rfl

theorem Confined.trans {middle : State} (first : state.Confined middle)
    (second : middle.Confined after) : state.Confined after := by
  have current : middle.scopes.current = state.scopes.current := by
    rw [ScopeTree.current, first.path]
    rfl
  constructor
  case path => exact second.path.trans first.path
  case scope =>
    intro id other
    rw [second.scope id (current ▸ other), first.scope id other]
  case owners =>
    obtain ⟨added, owners, here⟩ := first.owners
    obtain ⟨more, moreOwners, moreHere⟩ := second.owners
    refine ⟨added ++ more, ?_, ?_⟩
    · rw [moreOwners, owners, List.append_assoc]
    · intro entry member
      rcases List.mem_append.mp member with old | new
      · exact here entry old
      · exact (moreHere entry new).trans current

theorem confined_modify {change : Scope → Scope} (bindings : List Binding)
    (containers : List Container) :
    state.Confined
      { state with
        scopes := state.scopes.modify state.scopes.current change
        bindings
        containers } where
  path := rfl
  scope := by
    intro id other
    rw [ScopeTree.get?_modify, if_neg other]
  owners := ⟨[], (List.append_nil _).symm, by simp⟩

theorem addBinding_confined (name : String) (referent : Referent) (perspective : Perspective)
    (span : Span) : state.Confined (state.addBinding name referent perspective span).2 :=
  confined_modify _ _

theorem declareBinding_confined {referent : Referent} {perspective : Perspective}
    {binding : Binding}
    (passed : state.declareBinding name referent perspective span = .ok (binding, after)) :
    state.Confined after := by
  have added := congrArg (·.2) (declareBinding_eq_ok passed)
  rw [← show _ = after from added]
  exact addBinding_confined name referent perspective span

theorem addBorrow_confined {container : Container} {region : Region} {actor : Option RecordId}
    {attempt : Attempt} {id : RecordId} (here : region.scope = state.scopes.current)
    (passed : state.addBorrow container region actor attempt span = .ok (id, after)) :
    state.Confined after := by
  have inserted : ∃ ledgered,
      after = { state with ledger := (state.ledger.insert region ledgered).2 } := by
    rw [addBorrow] at passed
    split at passed
    · simp only [Check.bind_eq_ok, Check.mapError_eq_ok, Check.pure_eq_ok, Prod.mk.injEq] at passed
      obtain ⟨lent, borrowed, -, rfl⟩ := passed
      rw [(Ledger.borrow_eq_ok borrowed).1]
      exact ⟨true, rfl⟩
    · rw [← (Prod.mk.inj (Except.ok.inj passed)).2]
      exact ⟨false, rfl⟩
  obtain ⟨ledgered, rfl⟩ := inserted
  constructor
  case path => rfl
  case scope =>
    intro id _
    rfl
  case owners =>
    refine ⟨_, Ledger.owners_insert .., ?_⟩
    intro entry member
    rw [List.mem_singleton.mp member]
    exact here

theorem insert_confined (access : Access) (placement : Placement) (slot : Slot) :
    state.Confined (state.insert access placement slot) := by
  apply confined_of_eq scopes_insert
  rw [State.insert]
  split
  · rfl
  · split
    · exact Ledger.owners_rebase ..
    · exact Ledger.owners_rebase ..
    · rfl

theorem remove_confined (access : Access) (removed : SlotSet) :
    state.Confined (state.remove access removed).2 := by
  apply confined_of_eq scopes_remove
  simp only [State.remove]
  split
  · exact Ledger.owners_rebase ..
  · rfl

theorem insertAll_confined (access : Access) (planned : List (Placement × Slot)) :
    state.Confined (state.insertAll access planned) := by
  induction planned generalizing state with
  | nil => exact .refl state
  | cons first rest ih =>
      rw [insertAll_cons]
      exact (insert_confined access _ first.2).trans ih

theorem commitTransfer_confined {transfer : Transfer} {result : Option RecordId × State}
    (passed : state.commitTransfer transfer span = .ok result) : state.Confined result.2 := by
  rw [commitTransfer] at passed
  split at passed
  · simp only [commitReference, Check.bind_eq_ok, Check.pure_eq_ok, Check.mapError_eq_ok] at passed
    obtain ⟨_, ⟨lent, added, rfl⟩, rfl⟩ := passed
    exact (addBorrow_confined rfl added).trans (insertAll_confined ..)
  · split at passed
    · rw [← Except.ok.inj passed]
      have moved : state.Confined (state.markMoved transfer.source.container.id span) :=
        confined_of_eq rfl rfl
      exact moved.trans (insertAll_confined ..)
    · rw [← Except.ok.inj passed]
      exact (remove_confined ..).trans (insertAll_confined ..)

/-- An operation on what a name reaches is carried out, or left out. -/
theorem withAccess_confined {operate : Access → Except Diagnostic Outcome}
    (passed : state.withAccess name span operate = .ok outcome)
    (operates : ∀ access, operate access = .ok outcome → state.Confined outcome.state) :
    state.Confined outcome.state := by
  simp only [withAccess, Check.bind_eq_ok] at passed
  obtain ⟨reached, -, rest⟩ := passed
  cases reached with
  | none =>
      rw [Check.pure_eq_ok] at rest
      rw [← rest]
      exact .refl state
  | some access => exact operates access rest

theorem declarePoisoned_confined {reports : List Diagnostic}
    (passed : state.declarePoisoned name reports span = .ok outcome) :
    state.Confined outcome.state := by
  simp only [declarePoisoned, Check.bind_eq_ok, Check.pure_eq_ok] at passed
  obtain ⟨⟨binding, after⟩, declared, rfl⟩ := passed
  exact declareBinding_confined declared

theorem declare_confined {element : Element} {key : Option Element} {mode : Mode}
    (passed : state.declare name element key mode span = .ok outcome) :
    state.Confined outcome.state := by
  simp only [declare, Check.bind_eq_ok, Check.pure_eq_ok] at passed
  obtain ⟨⟨container, after⟩, declared, rfl⟩ := passed
  rw [show after = _ from (register_eq_ok declared).2]
  exact confined_modify _ _

theorem bind_confined {container : String} {perspective : Option Perspective}
    (passed : state.bind name container perspective span = .ok outcome) :
    state.Confined outcome.state := by
  simp only [State.bind, Check.bind_eq_ok] at passed
  obtain ⟨_, -, passed⟩ := passed
  split at passed
  · simp only [Check.bind_eq_ok, Check.pure_eq_ok] at passed
    obtain ⟨⟨binding, after⟩, declared, rfl⟩ := passed
    exact declareBinding_confined declared
  · exact declarePoisoned_confined passed

theorem borrow_confined {source : String} {extent : Extent} {mode : BorrowMode}
    (passed : state.borrow name source extent mode span = .ok outcome) :
    state.Confined outcome.state := by
  simp only [State.borrow, Check.bind_eq_ok] at passed
  obtain ⟨_, -, passed⟩ := passed
  split at passed
  · rename_i id container borrowed tried
    simp only [tryBorrow, Check.bind_eq_ok] at tried
    obtain ⟨reached, -, tried⟩ := tried
    cases reached with
    | none => simp at tried
    | some access =>
        simp only [Check.bind_eq_ok, Check.pure_eq_ok, Option.some.injEq, Prod.mk.injEq] at tried
        obtain ⟨region, checked, ⟨_, _⟩, added, rfl, rfl, rfl⟩ := tried
        obtain ⟨-, -, here, -⟩ := checkBorrow_eq_ok checked
        simp only [Check.bind_eq_ok, Check.pure_eq_ok] at passed
        obtain ⟨⟨binding, declared⟩, bound, rfl⟩ := passed
        have lent := (addBorrow_confined here added).trans (declareBinding_confined bound)
        exact lent.trans (confined_of_eq rfl (Ledger.owners_modify _ _ _ fun _ => ⟨rfl, rfl⟩))
  · exact declarePoisoned_confined passed
  · exact declarePoisoned_confined passed

theorem pushValue_confined {value : Value} {key : Option Value} {conversion : Option Conversion}
    (passed : state.pushValue name value key conversion span = .ok outcome) :
    state.Confined outcome.state := by
  apply withAccess_confined passed
  intro access passed
  simp only [Check.bind_eq_ok, Check.pure_eq_ok] at passed
  obtain ⟨_, -, converted, -, placement, -, _, -, rfl⟩ := passed
  exact insert_confined ..

theorem transfer_confined {source : String} {effect : Effect} {key : Option Value}
    {conversion : Option Conversion}
    (passed : state.transfer name source effect key conversion span = .ok outcome) :
    state.Confined outcome.state := by
  apply withAccess_confined passed
  intro target passed
  simp only [Check.bind_eq_ok] at passed
  obtain ⟨reached, -, passed⟩ := passed
  cases reached with
  | none =>
      rw [Check.pure_eq_ok] at passed
      rw [← passed]
      exact .refl state
  | some origin =>
      simp only [Check.bind_eq_ok, Check.pure_eq_ok] at passed
      obtain ⟨checked, -, committed, done, rfl⟩ := passed
      exact commitTransfer_confined done

theorem pop_confined {extent : Option Extent}
    (passed : state.pop name extent span = .ok outcome) : state.Confined outcome.state := by
  apply withAccess_confined passed
  intro access passed
  simp only [Check.bind_eq_ok, Check.pure_eq_ok] at passed
  obtain ⟨removed, -, rfl⟩ := passed
  exact remove_confined ..

theorem peek_confined {extent : Option Extent}
    (passed : state.peek name extent span = .ok outcome) : state.Confined outcome.state := by
  apply withAccess_confined passed
  intro access passed
  simp only [Check.bind_eq_ok, Check.pure_eq_ok] at passed
  obtain ⟨slots, -, rfl⟩ := passed
  exact .refl state

theorem setPerspective_confined {perspective : Perspective}
    (passed : state.setPerspective name perspective span = .ok outcome) :
    state.Confined outcome.state := by
  apply withAccess_confined passed
  intro access passed
  simp only [Check.bind_eq_ok, Check.pure_eq_ok] at passed
  obtain ⟨stance, -, rfl⟩ := passed
  exact confined_of_eq rfl rfl

theorem flip_confined (passed : state.flip name span = .ok outcome) :
    state.Confined outcome.state := by
  apply withAccess_confined passed
  intro access passed
  simp only [Check.bind_eq_ok, Check.pure_eq_ok] at passed
  obtain ⟨stance, -, rfl⟩ := passed
  exact confined_of_eq rfl rfl

theorem choose_confined {arms : List Perspective} {fallback : Bool}
    (passed : state.choose name arms fallback span = .ok outcome) :
    state.Confined outcome.state := by
  apply withAccess_confined passed
  intro access passed
  rw [← Except.ok.inj passed]
  exact .refl state

theorem release_confined (passed : state.release name span = .ok outcome) :
    state.Confined outcome.state := by
  apply withAccess_confined passed
  intro access passed
  simp only [Check.throw_eq_error, Check.error_bind, Check.reject_eq_ok, Check.bind_eq_ok,
    Check.pure_eq_ok] at passed
  obtain ⟨_, -, -, -, rfl⟩ := passed
  exact confined_of_eq rfl rfl

theorem capture_confined {source : String} (passed : state.capture name source span = .ok outcome) :
    state.Confined outcome.state := by
  simp only [capture, Check.bind_eq_ok] at passed
  obtain ⟨target, -, origin, -, passed⟩ := passed
  split at passed
  · rw [Check.pure_eq_ok] at passed
    rw [← passed]
    exact .refl state
  · rw [Check.bind_eq_ok] at passed
    obtain ⟨captured, -, passed⟩ := passed
    cases captured with
    | none =>
        rw [Check.pure_eq_ok] at passed
        rw [← passed]
        exact .refl state
    | some container =>
        rw [Check.bind_eq_ok] at passed
        obtain ⟨_, -, passed⟩ := passed
        split at passed <;> rw [Check.pure_eq_ok] at passed <;> rw [← passed] <;>
          exact confined_of_eq rfl rfl

theorem spawn_confined (captures : List Capture) (span : Span) :
    state.Confined (state.spawn captures span).state := by
  have moved : ∀ ids : List ContainerId,
      state.Confined (ids.foldl (fun state id => state.markMoved id span) state) := by
    intro ids
    induction ids generalizing state with
    | nil => exact .refl state
    | cons id rest ih =>
        have first : state.Confined (state.markMoved id span) := confined_of_eq rfl rfl
        exact first.trans ih
  simp only [spawn]
  split
  · exact moved _
  · exact .refl state

theorem settle_confined {result : Except Diagnostic Outcome}
    (accepted : ∀ {outcome}, result = .ok outcome → state.Confined outcome.state) :
    state.Confined (state.settle result).state := by
  cases result with
  | ok outcome => exact accepted rfl
  | error diagnostic => exact .refl state

end State

/-- Whether an operation opens a scope. -/
def Operation.opens : Operation → Bool
  | .enterScope _ => true
  | _ => false

/-- Whether an operation closes a scope. -/
def Operation.closes : Operation → Bool
  | .exitScope => true
  | _ => false

namespace State

/-- Whatever an operation does that neither opens nor closes a scope is confined to the current
one. -/
theorem perform_confined {state : State} {operation : Operation}
    (opens : operation.opens = false) (closes : operation.closes = false) (span : Span) :
    state.Confined (state.perform operation span).state := by
  cases operation with
  | declare container element key mode => exact settle_confined declare_confined
  | bind binding container perspective => exact settle_confined bind_confined
  | push binding operand key conversion =>
      cases operand with
      | value literal => exact settle_confined pushValue_confined
      | transfer source effect => exact settle_confined transfer_confined
  | pop binding extent => exact settle_confined pop_confined
  | peek binding extent => exact settle_confined peek_confined
  | borrow binding source extent mode => exact settle_confined borrow_confined
  | setPerspective binding perspective => exact settle_confined setPerspective_confined
  | flip binding => exact settle_confined flip_confined
  | capture target source => exact settle_confined capture_confined
  | release binding => exact settle_confined release_confined
  | choose binding arms fallback => exact settle_confined choose_confined
  | enterScope kind => contradiction
  | exitScope => contradiction
  | spawn captures => exact spawn_confined captures span

/-! ## Scopes inside a block -/

/-- A state reached inside a block: some scopes have been opened inside the old ones, which know
what they knew, and all borrows that are new belong to the opened scopes. -/
structure Within (outer inner : State) (opened : List ScopeId) : Prop where
  path : inner.scopes.path = opened ++ outer.scopes.path
  scope : ∀ id ∈ outer.scopes.path, inner.scopes.get? id = outer.scopes.get? id
  owners : ∃ added, inner.ledger.owners = outer.ledger.owners ++ added ∧
    ∀ entry ∈ added, entry.2 ∈ opened

variable {outer inner after : State} {id : ScopeId} {opened : List ScopeId}

theorem Within.refl (state : State) : state.Within state [] where
  path := rfl
  scope := fun _ _ => rfl
  owners := ⟨[], (List.append_nil _).symm, by simp⟩

theorem Within.not_mem (within : outer.Within inner (id :: opened)) (sound : inner.Sound) :
    id ∉ outer.scopes.path := by
  have nodup := sound.scopes.path_nodup
  rw [within.path, List.cons_append, List.nodup_cons, List.mem_append, not_or] at nodup
  exact nodup.1.2

theorem Within.confined (within : outer.Within inner (id :: opened)) (sound : inner.Sound)
    (confined : inner.Confined after) : outer.Within after (id :: opened) := by
  have current : inner.scopes.current = id := by
    rw [ScopeTree.current, within.path]
    rfl
  constructor
  case path => exact confined.path.trans within.path
  case scope =>
    intro other member
    have different : other ≠ inner.scopes.current := by
      rw [current]
      rintro rfl
      exact within.not_mem sound member
    exact (confined.scope other different).trans (within.scope other member)
  case owners =>
    obtain ⟨added, owners, owned⟩ := within.owners
    obtain ⟨more, moreOwners, here⟩ := confined.owners
    refine ⟨added ++ more, ?_, ?_⟩
    · rw [moreOwners, owners, List.append_assoc]
    · intro entry member
      rcases List.mem_append.mp member with old | new
      · exact owned entry old
      · rw [here entry new, current]
        exact List.mem_cons_self

theorem Within.enter (within : outer.Within inner opened) (sound : inner.Sound) (kind : ScopeKind)
    (span : Span) :
    ∃ id, outer.Within (inner.enterScope kind span).state (id :: opened) := by
  refine ⟨⟨inner.scopes.scopes.length⟩, ?_⟩
  constructor
  case path =>
    rw [List.cons_append, ← within.path]
    rfl
  case scope =>
    intro other member
    have known : other.index < inner.scopes.scopes.length := by
      apply ScopeTree.lt_of_mem_path sound.scopes
      rw [within.path]
      exact List.mem_append_right opened member
    change (inner.scopes.enter kind span).2.get? other = _
    rw [ScopeTree.get?_enter, if_neg (Nat.ne_of_lt known)]
    exact within.scope other member
  case owners =>
    obtain ⟨added, owners, owned⟩ := within.owners
    refine ⟨added, owners, ?_⟩
    intro entry member
    exact List.mem_cons_of_mem _ (owned entry member)

/-- No borrow that was active before the block belongs to a scope of the block. -/
theorem Within.owners_filter (within : outer.Within inner (id :: opened)) (outerSound : outer.Sound)
    (sound : inner.Sound) : outer.ledger.owners.filter (·.2 ≠ id) = outer.ledger.owners := by
  apply List.filter_eq_self.mpr
  intro entry member
  obtain ⟨record, active, rfl⟩ := List.mem_map.mp member
  obtain ⟨container, backs⟩ := outerSound.backed record active
  rw [decide_eq_true_eq]
  rintro rfl
  exact within.not_mem sound backs.opened

/-- The exit of a scope of the block takes the borrows along that belong to it, and none that were
active before the block. -/
theorem Within.exit (within : outer.Within inner (id :: opened)) (outerSound : outer.Sound)
    (sound : inner.Sound) (span : Span) :
    outer.Within (inner.exitScope span).state opened := by
  cases exits : inner.exitScope? span with
  | none =>
      -- Below the scope of the block there is at least the global one.
      simp only [exitScope?, Option.map_eq_none_iff] at exits
      obtain ⟨root, path⟩ := ScopeTree.path_of_exit?_eq_none sound.scopes exits
      rw [within.path, List.cons_append, List.cons.injEq, List.append_eq_nil_iff] at path
      exact (outerSound.scopes.path_ne_nil path.2.2).elim
  | some closing =>
      obtain ⟨-, -, scope, scopes, leaves, ends⟩ := sound.exitScope? exits
      have left := (ScopeTree.exit?_leaves leaves).path
      rw [within.path, List.cons_append, List.cons.injEq] at left
      obtain ⟨rfl, path⟩ := left
      rw [exitScope, exits]
      constructor
      case path =>
        rw [ends.scopes]
        exact path.symm
      case scope =>
        intro other member
        have different : other ≠ id := by
          rintro rfl
          exact within.not_mem sound member
        rw [ends.scopes]
        change scopes.get? other = _
        rw [ScopeTree.get?_exit leaves, if_neg different]
        exact within.scope other member
      case owners =>
        obtain ⟨added, owners, owned⟩ := within.owners
        refine ⟨added.filter (·.2 ≠ id), ?_, ?_⟩
        · rw [ends.ledger]
          change (inner.ledger.releaseScope id).2.owners = _
          rw [Ledger.owners_releaseScope sound.ledger, owners, List.filter_append,
            within.owners_filter outerSound sound]
        · intro entry member
          rw [List.mem_filter, decide_eq_true_eq] at member
          exact (List.mem_cons.mp (owned entry member.1)).resolve_left member.2

end State

/-! ## Runs through a block -/

/-- The scopes that a sequence of operations opens are those that it closes, and it closes none
before it has opened it. -/
@[mk_iff] structure Balanced (body : List Node) : Prop where
  nested : ∀ before, before <+: body →
    before.countP (·.operation.closes) ≤ before.countP (·.operation.opens)
  total : body.countP (·.operation.closes) = body.countP (·.operation.opens)

instance (body : List Node) : Decidable (Balanced body) :=
  decidable_of_iff
    ((∀ before ∈ body.inits,
        before.countP (·.operation.closes) ≤ before.countP (·.operation.opens)) ∧
      body.countP (·.operation.closes) = body.countP (·.operation.opens))
    (by simp only [balanced_iff, List.mem_inits])

namespace Verification

/-- A step inside a block opens a scope of the block, closes one, or leaves the open ones. -/
theorem within_step {outer : State} {verification : Verification} {id : ScopeId}
    {opened : List ScopeId} (within : outer.Within verification.state (id :: opened))
    (outerSound : outer.Sound) (sound : verification.state.Sound) (node : Node) :
    ∃ later, outer.Within (verification.step node).state later ∧
      later.length + [node].countP (·.operation.closes) =
        (id :: opened).length + [node].countP (·.operation.opens) := by
  rw [List.countP_singleton, List.countP_singleton]
  cases opens : node.operation.opens with
  | true =>
      cases operation : node.operation <;>
        simp only [operation, Operation.opens, Bool.false_eq_true] at opens
      obtain ⟨new, entered⟩ := within.enter sound _ node.span
      refine ⟨new :: id :: opened, ?_, rfl⟩
      rw [step, operation]
      exact entered
  | false =>
      cases closes : node.operation.closes with
      | true =>
          cases operation : node.operation <;>
            simp only [operation, Operation.closes, Bool.false_eq_true] at closes
          refine ⟨opened, ?_, rfl⟩
          rw [step, operation]
          exact within.exit outerSound sound node.span
      | false =>
          refine ⟨id :: opened, ?_, rfl⟩
          exact within.confined sound (State.perform_confined opens closes node.span)

/-- As long as a block has not been left, it is inside its own scope. -/
theorem within_block (nodes : List Node) {body : List Node} (balanced : Balanced body)
    (kind : ScopeKind) (span : Span) {before : List Node} (begins : before <+: body) :
    ∃ opened, (run {} nodes).state.Within
        (run {} (nodes ++ ⟨.enterScope kind, span⟩ :: before)).state opened ∧
      opened.length + before.countP (·.operation.closes) =
        before.countP (·.operation.opens) + 1 := by
  induction before using List.reverseRecOn with
  | nil =>
      rw [run_concat]
      obtain ⟨id, within⟩ := (State.Within.refl _).enter (run_sound nodes) kind span
      exact ⟨[id], within, rfl⟩
  | append_singleton before node ih =>
      have earlier : before <+: body := (List.prefix_append before [node]).trans begins
      obtain ⟨opened, within, depth⟩ := ih earlier
      have nested := balanced.nested before earlier
      have sound := run_sound (nodes ++ ⟨.enterScope kind, span⟩ :: before)
      rw [← List.cons_append, ← List.append_assoc, run_concat, List.countP_append,
        List.countP_append]
      cases opened with
      | nil =>
          rw [List.length_nil] at depth
          omega
      | cons id opened =>
          obtain ⟨later, inside, change⟩ := within_step within (run_sound nodes) sound node
          exact ⟨later, inside, by omega⟩

/-- A block leaves no trace in the names and the borrows: after it the same scopes are open, each of
them declares what it declared before, and the same borrows are active. -/
theorem block_leaves_no_trace (nodes : List Node) {body : List Node} (balanced : Balanced body)
    (kind : ScopeKind) (start stop : Span) :
    let before := (run {} nodes).state
    let block := ⟨.enterScope kind, start⟩ :: body ++ [⟨.exitScope, stop⟩]
    let after := (run {} (nodes ++ block)).state
    after.scopes.current = before.scopes.current ∧
      after.scopes.path = before.scopes.path ∧
      (∀ id ∈ before.scopes.path, ∃ scope,
        before.scopes.get? id = some scope ∧ after.scopes.get? id = some scope) ∧
      after.ledger.records.map (·.id) = before.ledger.records.map (·.id) := by
  intro before block after
  have sound : before.Sound := run_sound nodes
  -- At the end of the body only the scope of the block itself is open, and its exit closes it.
  have left : before.Within after [] := by
    obtain ⟨opened, within, depth⟩ := within_block nodes balanced kind start (List.prefix_refl body)
    rw [balanced.total, Nat.add_comm, Nat.add_left_cancel_iff, List.length_eq_one_iff] at depth
    obtain ⟨id, rfl⟩ := depth
    have exits := within.exit sound (run_sound _) stop
    have last : run {} (nodes ++ block) =
        (run {} (nodes ++ ⟨.enterScope kind, start⟩ :: body)).step ⟨.exitScope, stop⟩ := by
      rw [← run_concat, List.append_assoc]
    change before.Within (run {} (nodes ++ block)).state []
    rw [last]
    exact exits
  have path : after.scopes.path = before.scopes.path := left.path
  refine ⟨?_, path, ?_, ?_⟩
  · rw [ScopeTree.current, path]
    rfl
  · intro id opened
    have known := ScopeTree.lt_of_mem_path sound.scopes opened
    have found : before.scopes.get? id = some before.scopes.scopes[id.index] :=
      List.getElem?_eq_getElem known
    exact ⟨_, found, (left.scope id opened).trans found⟩
  · obtain ⟨added, owners, owned⟩ := left.owners
    have none : added = [] := List.eq_nil_iff_forall_not_mem.mpr fun entry member =>
      List.not_mem_nil (owned entry member)
    rw [none, List.append_nil] at owners
    have ids : ∀ ledger : Ledger, ledger.records.map (·.id) = ledger.owners.map (·.1) := by
      intro ledger
      rw [Ledger.owners, List.map_map]
      rfl
    rw [ids, ids, owners]

/-- Two containers, of which the first is lent. -/
def lentOut : List Node :=
  [⟨.declare "X" .integer none .owned, {}⟩,
    ⟨.bind "x" "X" none, {}⟩,
    ⟨.push "x" (.value (.integer 1)) none none, {}⟩,
    ⟨.borrow "v" "x" (.range 0 0) .readOnly, {}⟩,
    ⟨.declare "T" .integer none .owned, {}⟩,
    ⟨.bind "t" "T" none, {}⟩]

/-- A body that shadows a name, lends from outside by a view and by a reference, fails to bind a
name, and points an outer binding at its own container. -/
def busyBody : List Node :=
  [⟨.declare "X" .integer none .owned, {}⟩,
    ⟨.borrow "w" "v" (.range 0 0) .readOnly, {}⟩,
    ⟨.push "t" (.transfer "x" .borrow) none none, {}⟩,
    ⟨.enterScope .task, {}⟩,
    ⟨.bind "x" "X" none, {}⟩,
    ⟨.bind "y" "Y" none, {}⟩,
    ⟨.capture "t" "x", {}⟩,
    ⟨.exitScope, {}⟩]

theorem block_leaves_no_trace_busy :
    Balanced busyBody ∧
      (run {} (lentOut ++ ⟨.enterScope .block, {}⟩ :: busyBody)).state.ledger.records.map (·.id) =
        [⟨0⟩, ⟨1⟩, ⟨2⟩] ∧
      (run {} (lentOut ++ (⟨.enterScope .block, {}⟩ :: busyBody ++
        [⟨.exitScope, {}⟩]))).state.ledger.records.map (·.id) = [⟨0⟩] := by
  have balanced : Balanced busyBody := by decide
  obtain ⟨-, -, -, records⟩ := block_leaves_no_trace lentOut balanced .block {} {}
  exact ⟨balanced, by decide, records.trans (by decide)⟩

end Verification

end Custody
