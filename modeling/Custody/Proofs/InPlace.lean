import Custody.Proofs.Changes
import Custody.Verifier.InPlace

/-!
# Operations in place and as results

A procedure that works on one state has the outcome that is computed for its operation from the
state before it.  This rests on the order of its steps: what may break it off comes before what
changes the state, and where something still may break it off after a change, it does not.
-/

namespace Custody

namespace State

variable {state : State} {name : String} {span : Span}

theorem declareBinding_of_free (free : state.ensureFree name span = .ok ()) (referent : Referent)
    (perspective : Perspective) :
    state.declareBinding name referent perspective span =
      .ok (state.addBinding name referent perspective span) := by
  simp only [declareBinding, free]
  rfl

/-- A borrow that is taken changes the ledger only, so the name of the view is still free. -/
theorem ensureFree_tryBorrow {source : String} {extent : Extent} {mode : BorrowMode}
    {id : RecordId} {container : Container} {borrowed : State}
    (taken : state.tryBorrow source extent mode span = .ok (some (id, container, borrowed))) :
    borrowed.ensureFree name span = state.ensureFree name span := by
  simp only [tryBorrow, Check.bind_eq_ok] at taken
  obtain ⟨reached, -, taken⟩ := taken
  split at taken
  · simp at taken
  · simp only [Check.bind_eq_ok, Check.pure_eq_ok, Option.some.injEq, Prod.mk.injEq] at taken
    obtain ⟨region, -, ⟨_, _⟩, added, -, -, rfl⟩ := taken
    unfold addBorrow at added
    split at added
    · simp only [Check.bind_eq_ok, Check.pure_eq_ok, Prod.mk.injEq] at added
      obtain ⟨-, -, -, rfl⟩ := added
      rfl
    · simp only [Except.ok.injEq, Prod.mk.injEq] at added
      obtain ⟨-, rfl⟩ := added
      rfl

end State

namespace Procedure

/-! ## Steps of a procedure -/

variable {α β : Type} {desk after : Desk} {value : α} {diagnostic : Diagnostic}

@[simp] theorem apply_pure (value : α) (desk : Desk) :
    (pure value : Procedure α).apply desk = (.ok value, desk) := rfl

theorem apply_bind (procedure : Procedure α) (next : α → Procedure β) (desk : Desk) :
    (procedure >>= next).apply desk =
      match procedure.apply desk with
      | (.ok value, after) => (next value).apply after
      | (.error diagnostic, after) => (.error diagnostic, after) := by
  have runs : (procedure >>= next).apply desk =
      (ExceptT.bindCont next (procedure.apply desk).1).run (procedure.apply desk).2 := rfl
  rw [runs]
  obtain ⟨result, after⟩ := procedure.apply desk
  cases result <;> rfl

@[simp] theorem apply_look (view : State → α) (desk : Desk) :
    (look view).apply desk = (.ok (view desk.state), desk) := rfl

@[simp] theorem apply_ask (question : State → Except Diagnostic α) (desk : Desk) :
    (ask question).apply desk = (question desk.state, desk) := by
  rw [ask, apply_bind, apply_look]
  cases question desk.state <;> rfl

@[simp] theorem apply_change (next : State → State) (desk : Desk) :
    (change next).apply desk = (.ok (), { desk with state := next desk.state }) := rfl

@[simp] theorem apply_report (diagnostic : Diagnostic) (desk : Desk) :
    (report diagnostic).apply desk =
      (.ok (), { desk with reports := desk.reports ++ [diagnostic] }) := rfl

@[simp] theorem apply_attempt (procedure : Procedure α) (desk : Desk) :
    (attempt procedure).apply desk = (.ok (procedure.apply desk).1, (procedure.apply desk).2) := rfl

/-- Where the first part of a procedure does its work, the rest goes on from there. -/
theorem apply_of_done {procedure : Procedure α} (done : procedure.apply desk = (.ok value, after))
    (next : α → Procedure β) : (procedure >>= next).apply desk = (next value).apply after := by
  rw [apply_bind, done]

theorem conclude_of_done {procedure : Procedure α}
    (done : procedure.apply desk = (.ok value, after)) (next : α → Procedure Verdict) :
    (procedure >>= next).conclude desk = (next value).conclude after := by
  rw [conclude, apply_of_done done, conclude]

@[simp] theorem conclude_look (view : State → Verdict) (desk : Desk) :
    (look view).conclude desk = ⟨desk.state, view desk.state, desk.reports⟩ := rfl

theorem conclude_ask (question : State → Except Diagnostic α) (next : α → Procedure Verdict)
    (desk : Desk) :
    (ask question >>= next).conclude desk =
      match question desk.state with
      | .ok answer => (next answer).conclude desk
      | .error diagnostic => ⟨desk.state, desk.state.bare, desk.reports ++ [diagnostic]⟩ := by
  rw [conclude, apply_bind, apply_ask]
  cases question desk.state <;> rfl

/-! ## Changes that cannot fail -/

theorem apply_rebase_none {access : Access} {slots : SlotSet → SlotSet} (desk : Desk)
    (absent : access.record?.bind desk.state.ledger.get? = none) :
    (rebase access slots).apply desk = (.ok (), desk) := by
  rw [rebase, apply_of_done (apply_look ..), absent]
  rfl

theorem apply_rebase_some {access : Access} {slots : SlotSet → SlotSet} (desk : Desk)
    {record : BorrowRecord} (found : access.record?.bind desk.state.ledger.get? = some record) :
    (rebase access slots).apply desk =
      (.ok (), { desk with
        state := { desk.state with
          ledger := desk.state.ledger.rebase record.id (slots record.slots) } }) := by
  rw [rebase, apply_of_done (apply_look ..), found]
  rfl

/-- A slot that is inserted at the head is the last one of the content, if there is one. -/
theorem length_content_insert (state : State) (id : ContainerId) (slot : Slot) :
    ((state.setContent id ((state.content id).insert .head slot)).content id).length - 1 =
      (state.content id).length := by
  cases found : state.container? id with
  | none =>
      have absent (content : Content) : (state.setContent id content).container? id = none := by
        simpa [State.setContent, State.modifyContainer, State.container?] using found
      simp [State.content, absent, found]
  | some container =>
      rw [State.content_setContent found]
      simp [Content.insert, Content.pushHead]

theorem apply_insert (access : Access) (placement : Placement) (slot : Slot) (desk : Desk) :
    (insert access placement slot).apply desk =
      (.ok (), { desk with state := desk.state.insert access placement slot }) := by
  rw [insert, apply_of_done (apply_change ..), apply_of_done (apply_look ..), State.insert]
  cases found : access.record?.bind desk.state.ledger.get? with
  | none =>
      cases placement with
      | head => exact apply_rebase_none _ found
      | tail => exact apply_rebase_none _ found
      | replace position => rfl
  | some record =>
      cases placement with
      | head =>
        dsimp only
        rw [length_content_insert]
        exact apply_rebase_some _ found
      | tail => exact apply_rebase_some _ found
      | replace position => rfl

theorem apply_insertAll (access : Access) (slots : List (Placement × Slot)) (desk : Desk) :
    (insertAll access slots).apply desk =
      (.ok (), { desk with state := desk.state.insertAll access slots }) := by
  induction slots generalizing desk with
  | nil => rfl
  | cons first rest ih =>
      obtain ⟨planned, slot⟩ := first
      rw [insertAll, apply_of_done (apply_look ..), apply_of_done (apply_insert ..), ih]
      rfl

theorem apply_remove (access : Access) (removed : SlotSet) (desk : Desk) :
    (remove access removed).apply desk =
      (.ok (desk.state.remove access removed).1,
        { desk with state := (desk.state.remove access removed).2 }) := by
  rw [remove, apply_of_done (apply_look ..), apply_of_done (apply_change ..), State.remove]
  obtain ⟨slots, kept⟩ := (desk.state.content access.container.id).remove removed.toList
  let taken : Desk := { desk with state := desk.state.setContent access.container.id kept }
  cases found : access.record?.bind desk.state.ledger.get? with
  | none => exact (apply_of_done (apply_rebase_none taken found) _).trans rfl
  | some record => exact (apply_of_done (apply_rebase_some taken found) _).trans rfl

/-- Reporting bindings and removing their referents one by one does the same as all at once. -/
theorem apply_poisonAll (bindings : List Binding) (cause : Binding → LifetimeBreach) (span : Span)
    (desk : Desk) :
    (poisonAll bindings cause span).apply desk =
      (.ok (), { state := (desk.state.poisonAll bindings cause span).state
                 reports := desk.reports ++
                   (desk.state.poisonAll bindings cause span).reports }) := by
  induction bindings generalizing desk with
  | nil => simp [poisonAll, State.poisonAll]
  | cons binding rest ih =>
      rw [poisonAll, List.forM_cons, bind_assoc, apply_of_done (apply_report ..),
        apply_of_done (apply_change ..)]
      refine (ih _).trans ?_
      simp [State.poisonAll]

theorem apply_endContainer (span : Span) (id : ContainerId) (desk : Desk) :
    (endContainer span id).apply desk =
      (.ok (), { state := (desk.state.endContainer id span).state
                 reports := desk.reports ++ (desk.state.endContainer id span).reports }) := by
  rw [endContainer, apply_of_done (apply_look ..), State.endContainer]
  cases desk.state.container? id with
  | none => simp
  | some container =>
      dsimp only
      by_cases gone : (container.isMoved || container.liveness ≠ .live) = true
      · rw [if_pos gone, if_pos gone, List.append_nil, apply_pure]
      · rw [if_neg gone, if_neg gone]
        cases container.mode.onExit with
        | destroy =>
            dsimp only
            rw [apply_of_done (apply_change ..), apply_of_done (apply_look ..), apply_poisonAll]
            rfl
        | forget => rw [apply_change, List.append_nil]
        | defer => rw [apply_change, List.append_nil]

theorem apply_endContainers (span : Span) (ids : List ContainerId) (desk : Desk) :
    (forM ids (endContainer span)).apply desk =
      (.ok (), { state := (desk.state.endContainers ids span).state
                 reports := desk.reports ++ (desk.state.endContainers ids span).reports }) := by
  induction ids generalizing desk with
  | nil => simp [State.endContainers]
  | cons id rest ih =>
      rw [List.forM_cons, apply_of_done (apply_endContainer ..), ih, State.endContainers_cons,
        List.append_assoc]

theorem apply_closeScope (scope : ScopeId) (span : Span) (desk : Desk) :
    (closeScope scope span).apply desk =
      (.ok (), { state := (desk.state.closeScope scope span).state
                 reports := desk.reports ++ (desk.state.closeScope scope span).reports }) := by
  rw [closeScope, apply_of_done (apply_look ..), apply_of_done (apply_change ..),
    apply_of_done (apply_look ..), apply_of_done (apply_endContainers ..),
    apply_of_done (apply_look ..), apply_poisonAll, List.append_assoc]
  rfl

/-! ## Changes that a check comes before -/

/-- A procedure that yields the value and the state of a result, or breaks off with its finding and
leaves the desk as it was. -/
def Yields {γ : Type} (desk : Desk) (procedure : Procedure α) (result : Except Diagnostic γ)
    (read : γ → α × State) : Prop :=
  procedure.apply desk =
    match result with
    | .ok found => (.ok (read found).1, { desk with state := (read found).2 })
    | .error diagnostic => (.error diagnostic, desk)

variable {name : String} {span : Span}

theorem yields_ask {γ : Type} {question : State → Except Diagnostic β} {next : β → Procedure α}
    {rest : β → Except Diagnostic γ} {read : γ → α × State}
    (goesOn : ∀ answer, Yields desk (next answer) (rest answer) read) :
    Yields desk (ask question >>= next) (question desk.state >>= rest) read := by
  unfold Yields
  rw [apply_bind, apply_ask]
  cases question desk.state with
  | ok answer => exact goesOn answer
  | error diagnostic => rfl

theorem register_yields {element : Element} {key : Option Element} {mode : Mode} :
    Yields desk (register name element key mode span)
      (desk.state.register name element key mode span) id := by
  unfold Yields
  rw [register, apply_of_done (apply_look ..), State.register]
  cases desk.state.declaredHere? name with
  | none => rfl
  | some earlier =>
      dsimp only
      cases earlier.isMoved <;> rfl

theorem declareBinding_yields {referent : Referent} {perspective : Perspective} :
    Yields desk (declareBinding name referent perspective span)
      (desk.state.declareBinding name referent perspective span) id :=
  yields_ask fun _ => rfl

theorem addBorrow_yields {container : Container} {region : Region} {except : Option RecordId}
    {attempt : Attempt} (place : Diagnostic → Diagnostic) :
    Yields desk
      (addBorrow container region except fun record => place (record.conflict attempt span))
      ((desk.state.addBorrow container region except attempt span).mapError place) id := by
  unfold Yields
  rw [addBorrow, State.addBorrow]
  cases container.mode.isLedgered with
  | false => rfl
  | true =>
      rw [if_pos rfl, if_pos rfl, Ledger.borrow, apply_bind, apply_ask]
      cases region.mode.isMutable with
      | true =>
          rw [if_pos rfl, if_pos rfl]
          cases desk.state.ledger.checkWrite region.container region.slots except <;> rfl
      | false =>
          rw [if_neg Bool.false_ne_true, if_neg Bool.false_ne_true]
          cases desk.state.ledger.checkRead region.container region.slots except <;> rfl

theorem commitTransfer_yields (transfer : Transfer) :
    Yields desk (commitTransfer transfer span) (desk.state.commitTransfer transfer span) id := by
  unfold Yields
  rw [commitTransfer, State.commitTransfer]
  cases transfer.effect.borrowMode? with
  | some mode =>
      dsimp only
      rw [apply_of_done (apply_look ..), apply_bind, addBorrow_yields (·.inStep .source),
        State.commitReference]
      dsimp only
      cases (desk.state.addBorrow transfer.source.container _ transfer.source.record?
          .referencePush span).mapError (·.inStep .source) with
      | error diagnostic => rfl
      | ok added => exact apply_of_done (apply_insertAll ..) _
  | none =>
      dsimp only
      by_cases takes : transfer.effect = .take
      · rw [if_pos takes, if_pos takes, apply_of_done (apply_change ..)]
        exact apply_of_done (apply_insertAll ..) _
      · rw [if_neg takes, if_neg takes, apply_of_done (apply_remove ..)]
        exact apply_of_done (apply_insertAll ..) _

/-- A borrow is checked in full before it is recorded. -/
theorem tryBorrow_yields {source : String} {extent : Extent} {mode : BorrowMode} :
    Yields desk (tryBorrow source extent mode span) (desk.state.tryBorrow source extent mode span)
      fun
      | some (id, container, borrowed) => (some (id, container), borrowed)
      | none => (none, desk.state) := by
  refine yields_ask fun reached => ?_
  cases reached with
  | none => rfl
  | some access =>
      refine yields_ask fun region => ?_
      have added := @addBorrow_yields desk span access.container region access.record?
        (.borrow mode extent access.container.name) id
      unfold Yields
      rw [apply_bind]
      simp only [Yields, id] at added
      rw [added]
      cases desk.state.addBorrow access.container region access.record?
        (.borrow mode extent access.container.name) span <;> rfl

/-! ## Operations -/

/-- From a state on, a procedure does what a result says: it yields the outcome, or breaks off with
the finding in the state that it began with. -/
def Performs (state : State) (procedure : Procedure Verdict) (result : Except Diagnostic Outcome) :
    Prop :=
  procedure.conclude { state } = state.settle result

variable {state : State}

theorem performs_ask {question : State → Except Diagnostic α} {next : α → Procedure Verdict}
    {rest : α → Except Diagnostic Outcome}
    (goesOn : ∀ answer, question state = .ok answer → Performs state (next answer) (rest answer)) :
    Performs state (ask question >>= next) (question state >>= rest) := by
  rw [Performs, conclude_ask]
  cases answered : question state with
  | ok answer => exact goesOn answer answered
  | error diagnostic => rfl

theorem performs_of_yields {procedure : Procedure α} {result : Except Diagnostic (α × State)}
    (yields : Yields { state } procedure result id) {next : α → Procedure Verdict}
    {rest : α × State → Except Diagnostic Outcome}
    (goesOn : ∀ value after, (next value).conclude { state := after } =
      state.settle (rest (value, after))) :
    Performs state (procedure >>= next) (result >>= rest) := by
  rw [Performs, conclude, apply_bind, yields]
  cases result with
  | ok found => exact goesOn found.1 found.2
  | error diagnostic => rfl

theorem withAccess_performs {act : Access → Procedure Verdict}
    {operate : Access → Except Diagnostic Outcome}
    (acts : ∀ access, Performs state (act access) (operate access)) :
    Performs state (withAccess name span act) (state.withAccess name span operate) := by
  refine performs_ask fun reached _ => ?_
  cases reached with
  | some access => exact acts access
  | none => rfl

theorem declare_performs {element : Element} {key : Option Element} {mode : Mode} :
    Performs state (declare name element key mode span)
      (state.declare name element key mode span) :=
  performs_of_yields register_yields fun _ _ => rfl

theorem pushValue_performs {literal : Value} {key : Option Value}
    {conversion : Option Conversion} :
    Performs state (pushValue name literal key conversion span)
      (state.pushValue name literal key conversion span) := by
  apply withAccess_performs
  intro access
  refine performs_ask fun _ _ => ?_
  refine performs_ask fun converted _ => ?_
  refine performs_ask fun placement _ => ?_
  refine performs_ask fun _ _ => ?_
  exact conclude_of_done (apply_insert ..) _

theorem pop_performs {extent : Option Extent} :
    Performs state (pop name extent span) (state.pop name extent span) := by
  apply withAccess_performs
  intro access
  refine performs_ask fun removed _ => ?_
  exact conclude_of_done (apply_remove ..) _

theorem peek_performs {extent : Option Extent} :
    Performs state (peek name extent span) (state.peek name extent span) := by
  apply withAccess_performs
  intro access
  exact performs_ask fun _ _ => rfl

theorem transfer_performs {source : String} {effect : Effect} {key : Option Value}
    {conversion : Option Conversion} :
    Performs state (transfer name source effect key conversion span)
      (state.transfer name source effect key conversion span) := by
  apply withAccess_performs
  intro target
  refine performs_ask fun reached _ => ?_
  cases reached with
  | none => rfl
  | some source =>
      simp only [State.checkTransfer, bind_assoc, pure_bind]
      refine performs_ask fun head _ => ?_
      refine performs_ask fun converted _ => ?_
      refine performs_ask fun placements _ => ?_
      exact performs_of_yields (commitTransfer_yields _) fun _ _ => rfl

theorem setPerspective_performs {perspective : Perspective} :
    Performs state (setPerspective name perspective span)
      (state.setPerspective name perspective span) := by
  apply withAccess_performs
  intro access
  exact performs_ask fun _ _ => rfl

theorem flip_performs : Performs state (flip name span) (state.flip name span) := by
  apply withAccess_performs
  intro access
  exact performs_ask fun _ _ => rfl

theorem choose_performs {arms : List Perspective} {fallback : Bool} :
    Performs state (choose name arms fallback span) (state.choose name arms fallback span) := by
  apply withAccess_performs
  intro access
  cases covered : fallback || (State.missingArms arms access.container.isKeyed).isEmpty with
  | true => simp only [covered]; rfl
  | false => simp only [covered]; rfl

theorem capture_performs {source : String} :
    Performs state (capture name source span) (state.capture name source span) := by
  refine performs_ask fun target _ => ?_
  refine performs_ask fun origin _ => ?_
  dsimp only
  split
  · rfl
  · refine performs_ask fun captured _ => ?_
    cases captured with
    | none => rfl
    | some container =>
        refine performs_ask fun _ _ => ?_
        rw [Performs, conclude_of_done (apply_change ..), conclude_of_done (apply_look ..)]
        dsimp only
        generalize State.accessOf? _ _ = reached
        cases reached <;> rfl

theorem release_performs : Performs state (release name span) (state.release name span) := by
  apply withAccess_performs
  intro access
  refine performs_ask fun _ _ => ?_
  dsimp only
  split
  · rfl
  · split
    · rfl
    · rfl

/-- Where a binding cannot be made its name is declared first, and the finding comes after. -/
theorem poisoned_performs (reports : List Diagnostic) {last : Procedure Verdict}
    (concludes : ∀ after : State, last.conclude { state := after } = ⟨after, after.bare, reports⟩) :
    Performs state (declarePoisoned name span >>= fun _ => last)
      (state.declarePoisoned name reports span) := by
  simp only [declarePoisoned, bind_assoc, pure_bind]
  exact performs_of_yields declareBinding_yields fun _ after => concludes after

theorem bind_performs {container : String} {perspective : Option Perspective} :
    Performs state (bind name container perspective span)
      (state.bind name container perspective span) := by
  refine performs_ask fun _ free => ?_
  rw [Performs, conclude_of_done (apply_look ..)]
  cases state.checkBind container perspective span with
  | ok found => exact performs_of_yields declareBinding_yields fun _ _ => rfl
  | error diagnostic => exact poisoned_performs [diagnostic] fun _ => rfl

theorem borrow_performs {source : String} {extent : Extent} {mode : BorrowMode} :
    Performs state (borrow name source extent mode span)
      (state.borrow name source extent mode span) := by
  refine performs_ask fun _ free => ?_
  rw [Performs, conclude_of_done (apply_attempt ..), tryBorrow_yields]
  dsimp only
  cases tried : state.tryBorrow source extent mode span with
  | error diagnostic => exact poisoned_performs [diagnostic] fun _ => rfl
  | ok taken =>
      cases taken with
      | none => exact poisoned_performs [] fun _ => rfl
      | some taken =>
          obtain ⟨id, container, borrowed⟩ := taken
          have stillFree : borrowed.ensureFree name span = .ok () :=
            (State.ensureFree_tryBorrow tried).trans free
          have declared : (declareBinding name (.view id) .lifo span).apply { state := borrowed } =
              (.ok (borrowed.addBinding name (.view id) .lifo span).1,
                { state := (borrowed.addBinding name (.view id) .lifo span).2 }) := by
            rw [declareBinding_yields, State.declareBinding_of_free stillFree]
            rfl
          simp only [State.declareBinding_of_free stillFree]
          rw [conclude_of_done declared]
          rfl

theorem apply_mapM_look {β : Type} (items : List β) (view : β → State → α) (desk : Desk) :
    (items.mapM fun item => look (view item)).apply desk =
      (.ok (items.map fun item => view item desk.state), desk) := by
  induction items with
  | nil => rfl
  | cons item rest ih =>
      rw [List.mapM_cons, apply_of_done (apply_look ..), apply_of_done ih]
      rfl

theorem apply_forM_change {β : Type} (items : List β) (next : β → State → State) (desk : Desk) :
    (forM items fun item => change (next item)).apply desk =
      (.ok (),
        { desk with state := items.foldl (fun state item => next item state) desk.state }) := by
  induction items generalizing desk with
  | nil => rfl
  | cons item rest ih =>
      rw [List.forM_cons, apply_of_done (apply_change ..), ih]
      rfl

theorem apply_forM_report (diagnostics : List Diagnostic) (desk : Desk) :
    (forM diagnostics report).apply desk =
      (.ok (), { desk with reports := desk.reports ++ diagnostics }) := by
  induction diagnostics generalizing desk with
  | nil => simp
  | cons diagnostic rest ih =>
      rw [List.forM_cons, apply_of_done (apply_report ..), ih, List.append_assoc]
      rfl

theorem conclude_spawn (captures : List Capture) (span : Span) (state : State) :
    (spawn captures span).conclude { state } = state.spawn captures span := by
  rw [spawn, conclude_of_done (apply_mapM_look ..), State.spawn]
  dsimp only
  generalize captures.map (fun capture => state.checkTaskCapture capture span) = results
  by_cases passed : (State.failures results).isEmpty = true
  · rw [if_pos passed, if_pos passed, conclude_of_done (apply_forM_change ..),
      conclude_of_done (apply_forM_report ..), List.isEmpty_iff.mp passed]
    rfl
  · rw [if_neg passed, if_neg passed, conclude_of_done (apply_forM_report ..), conclude_look,
      Bool.eq_false_iff.mpr passed]
    rfl

theorem conclude_exitScope (span : Span) (state : State) :
    (exitScope span).conclude { state } = state.exitScope span := by
  rw [exitScope, conclude_of_done (apply_look ..), conclude_of_done (apply_look ..),
    State.exitScope, State.exitScope?]
  cases state.scopes.exit? with
  | none => rfl
  | some exit =>
      obtain ⟨scope, scopes⟩ := exit
      dsimp only
      rw [conclude_of_done (apply_change ..), conclude_of_done (apply_closeScope ..)]
      rfl

end Procedure

/-- In place every operation does what is computed for it. -/
theorem State.carryOut_eq_perform (state : State) (operation : Operation) (span : Span) :
    state.carryOut operation span = state.perform operation span := by
  cases operation with
  | declare container element key mode => exact Procedure.declare_performs
  | bind binding container perspective => exact Procedure.bind_performs
  | push binding operand key conversion =>
      cases operand with
      | value literal => exact Procedure.pushValue_performs
      | transfer source effect => exact Procedure.transfer_performs
  | pop binding extent => exact Procedure.pop_performs
  | peek binding extent => exact Procedure.peek_performs
  | borrow binding source extent mode => exact Procedure.borrow_performs
  | setPerspective binding perspective => exact Procedure.setPerspective_performs
  | flip binding => exact Procedure.flip_performs
  | capture target source => exact Procedure.capture_performs
  | release binding => exact Procedure.release_performs
  | choose binding arms fallback => exact Procedure.choose_performs
  | enterScope kind => rfl
  | exitScope => exact Procedure.conclude_exitScope span state
  | spawn captures => exact Procedure.conclude_spawn captures span state

end Custody
