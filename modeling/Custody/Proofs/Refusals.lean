import Custody.Proofs.InPlace
import Custody.Proofs.Runs

/-!
# Refused operations

An operation that is not accepted, be it rejected with a finding or skipped without one, leaves the
state exactly as it was.  Only the name of a binding that could not be made is remembered: where it
was free in the current scope, one binding without a referent is added.

This is a fact about the procedures that work in place.  A question that breaks a procedure off
changes nothing, and all that changes the state comes after the last question whose answer is still
open.
-/

namespace Custody

/-! ## Bindings without a referent -/

/-- The name that an operation declares for a binding. -/
def Operation.declares? : Operation → Option String
  | .bind binding _ _ => some binding
  | .borrow binding _ _ _ => some binding
  | _ => none

namespace State

/-- The current scope has no binding of a name. -/
def Free (state : State) (name : String) : Prop :=
  state.scopes.currentScope?.bind (·.bindings.get? name) = none

instance (state : State) (name : String) : Decidable (state.Free name) :=
  inferInstanceAs (Decidable (_ = none))

/-- The state with one more binding in the current scope, which refers to nothing. -/
def withPoisoned (state : State) (name : String) (span : Span) : State :=
  { state with
    scopes := state.scopes.modify state.scopes.current fun scope =>
      { scope with bindings := scope.bindings.insert name ⟨state.bindings.length⟩ }
    bindings := state.bindings ++
      [{ id := ⟨state.bindings.length⟩
         name
         scope := state.scopes.current
         referent := .poisoned
         stance := { current := .lifo, history := [] }
         span }] }

variable {state : State} {name : String} {span : Span} {outcome : Outcome}

/-- The check of a name passes exactly where the name is free: every name of a scope leads to a
binding. -/
theorem ensureFree_eq_ok_iff (sound : state.Sound) :
    state.ensureFree name span = .ok () ↔ state.Free name := by
  unfold ensureFree boundHere? Free
  cases here : state.scopes.currentScope? with
  | none => simp
  | some scope =>
      cases named : scope.bindings.get? name with
      | none => simp [named]
      | some id =>
          obtain ⟨binding, found, -⟩ := sound.binding_named here named
          simp [named, found]

end State

/-! ## Procedures -/

namespace Procedure

variable {α : Type} {state : State} {name : String} {span : Span}

/-- A procedure that leaves a state as it was unless its operation is accepted. -/
def Intact (procedure : Procedure Verdict) (state : State) : Prop :=
  (procedure.conclude { state }).verdict.ok = false → (procedure.conclude { state }).state = state

theorem intact_ask {question : State → Except Diagnostic α} {next : α → Procedure Verdict}
    (goesOn : ∀ answer, question state = .ok answer → (next answer).Intact state) :
    (ask question >>= next).Intact state := by
  rw [Intact, conclude_ask]
  cases answered : question state with
  | ok answer => exact goesOn answer answered
  | error diagnostic => exact fun _ => rfl

theorem intact_skipped : (look (·.bare)).Intact state :=
  fun _ => rfl

theorem intact_throw (diagnostic : Diagnostic) : (throw diagnostic : Procedure _).Intact state :=
  fun _ => rfl

theorem intact_accepted {procedure : Procedure Verdict}
    (accepted : (procedure.conclude { state }).verdict.ok = true) : procedure.Intact state := by
  intro refused
  rw [accepted] at refused
  contradiction

/-- A change that breaks off has not begun; once it is made the operation is accepted. -/
theorem intact_of_yields {procedure : Procedure α} {result : Except Diagnostic (α × State)}
    (yields : Yields { state } procedure result id) {next : α → Procedure Verdict}
    (accepts : ∀ value after, ((next value).conclude { state := after }).verdict.ok = true) :
    (procedure >>= next).Intact state := by
  cases result with
  | ok found =>
      apply intact_accepted
      rw [conclude_of_done yields]
      exact accepts found.1 found.2
  | error diagnostic =>
      rw [Intact, conclude, apply_bind, yields]
      exact fun _ => rfl

theorem withAccess_intact {act : Access → Procedure Verdict}
    (acts : ∀ access, (act access).Intact state) : (withAccess name span act).Intact state := by
  refine intact_ask fun reached _ => ?_
  cases reached with
  | some access => exact acts access
  | none => exact intact_skipped

/-! ## Operations -/

theorem declare_intact {element : Element} {key : Option Element} {mode : Mode} :
    (declare name element key mode span).Intact state :=
  intact_of_yields register_yields fun _ _ => rfl

theorem pushValue_intact {value : Value} {key : Option Value} {conversion : Option Conversion} :
    (pushValue name value key conversion span).Intact state := by
  apply withAccess_intact
  intro access
  refine intact_ask fun _ _ => ?_
  refine intact_ask fun converted _ => ?_
  refine intact_ask fun placement _ => ?_
  refine intact_ask fun _ _ => intact_accepted ?_
  rw [conclude_of_done (apply_insert ..)]
  rfl

/-- The source, the conversion and the target are checked before the source, the borrows and the
target are changed. -/
theorem transfer_intact {source : String} {effect : Effect} {key : Option Value}
    {conversion : Option Conversion} :
    (transfer name source effect key conversion span).Intact state := by
  apply withAccess_intact
  intro target
  refine intact_ask fun reached _ => ?_
  cases reached with
  | none => exact intact_skipped
  | some source =>
      refine intact_ask fun head _ => ?_
      refine intact_ask fun converted _ => ?_
      refine intact_ask fun placements _ => ?_
      exact intact_of_yields (commitTransfer_yields _) fun _ _ => rfl

theorem pop_intact {extent : Option Extent} : (pop name extent span).Intact state := by
  apply withAccess_intact
  intro access
  refine intact_ask fun removed _ => intact_accepted ?_
  rw [conclude_of_done (apply_remove ..)]
  rfl

theorem peek_intact {extent : Option Extent} : (peek name extent span).Intact state := by
  apply withAccess_intact
  intro access
  exact intact_ask fun _ _ => intact_accepted rfl

theorem setPerspective_intact {perspective : Perspective} :
    (setPerspective name perspective span).Intact state := by
  apply withAccess_intact
  intro access
  exact intact_ask fun _ _ => intact_accepted rfl

theorem flip_intact : (flip name span).Intact state := by
  apply withAccess_intact
  intro access
  exact intact_ask fun _ _ => intact_accepted rfl

theorem choose_intact {arms : List Perspective} {fallback : Bool} :
    (choose name arms fallback span).Intact state := by
  apply withAccess_intact
  intro access
  apply intact_accepted
  dsimp only
  split <;> rfl

theorem release_intact : (release name span).Intact state := by
  apply withAccess_intact
  intro access
  refine intact_ask fun _ _ => ?_
  dsimp only
  split
  · exact intact_throw _
  · split
    · exact intact_throw _
    · exact intact_accepted rfl

theorem capture_intact {source : String} : (capture name source span).Intact state := by
  refine intact_ask fun target _ => ?_
  refine intact_ask fun origin _ => ?_
  split
  · exact intact_skipped
  · refine intact_ask fun captured checked => ?_
    cases captured with
    | none => exact intact_skipped
    | some container =>
        refine intact_ask fun _ _ => intact_accepted ?_
        -- The change of the binding leaves borrows and containers as they are.
        obtain ⟨access, reached⟩ := @State.accessOf?_of_checkCapture state span target origin
          { target with
            referent := origin.referent
            capturedAt := some span } _ checked rfl
        have reached : (state.modifyBinding target.id fun _ => { target with
            referent := origin.referent
            capturedAt := some span }).accessOf? { target with
              referent := origin.referent
              capturedAt := some span } = some access := reached
        rw [conclude_of_done (apply_change ..), conclude_of_done (apply_look ..), reached]
        rfl

/-- No container moves before the last capture is checked. -/
theorem spawn_intact {captures : List Capture} : (spawn captures span).Intact state := by
  rw [Intact, conclude_spawn, State.spawn]
  dsimp only
  split
  · exact fun refused => Bool.noConfusion refused
  · exact fun _ => rfl

theorem exitScope_intact : (exitScope span).Intact state := by
  rw [Intact, conclude_exitScope, State.exitScope]
  split
  · exact fun refused => Bool.noConfusion refused
  · exact fun _ => rfl

/-! ## New bindings -/

/-- Where a name is taken nothing else is looked at. -/
theorem conclude_of_taken (sound : state.Sound) (taken : ¬state.Free name)
    (next : Unit → Procedure Verdict) :
    ((ask (·.ensureFree name span) >>= next).conclude { state }).state = state := by
  rw [conclude_ask]
  cases checked : state.ensureFree name span with
  | ok _ => exact (taken ((State.ensureFree_eq_ok_iff sound).mp checked)).elim
  | error diagnostic => rfl

end Procedure

namespace State

variable {state : State} {name : String} {span : Span}

theorem declarePoisoned_of_free (free : state.ensureFree name span = .ok ())
    (reports : List Diagnostic) :
    state.declarePoisoned name reports span =
      .ok ⟨state.withPoisoned name span, (state.withPoisoned name span).bare, reports⟩ := by
  simp only [declarePoisoned, declareBinding_of_free free]
  rfl

/-- A binding that could not be made is remembered without a referent. -/
theorem bind_refused (sound : state.Sound) (free : state.Free name) {container : String}
    {perspective : Option Perspective}
    (refused : (state.settle (state.bind name container perspective span)).verdict.ok = false) :
    (state.settle (state.bind name container perspective span)).state =
      state.withPoisoned name span := by
  have passed : state.ensureFree name span = .ok () := (ensureFree_eq_ok_iff sound).mpr free
  cases checked : state.checkBind container perspective span with
  | ok found =>
      simp only [State.bind, passed, checked, declareBinding_of_free passed] at refused
      contradiction
  | error diagnostic =>
      simp only [State.bind, passed, checked, declarePoisoned_of_free passed]
      rfl

/-- A view that could not be made is remembered without a referent. -/
theorem borrow_refused (sound : state.Sound) (free : state.Free name) {source : String}
    {extent : Extent} {mode : BorrowMode}
    (refused : (state.settle (state.borrow name source extent mode span)).verdict.ok = false) :
    (state.settle (state.borrow name source extent mode span)).state =
      state.withPoisoned name span := by
  have passed : state.ensureFree name span = .ok () := (ensureFree_eq_ok_iff sound).mpr free
  cases tried : state.tryBorrow source extent mode span with
  | ok result =>
      cases result with
      | none =>
          simp only [State.borrow, passed, tried, declarePoisoned_of_free passed]
          rfl
      | some taken =>
          obtain ⟨id, container, borrowed⟩ := taken
          have stillFree := (ensureFree_tryBorrow tried).trans passed
          simp only [State.borrow, passed, tried, declareBinding_of_free stillFree] at refused
          contradiction
  | error diagnostic =>
      simp only [State.borrow, passed, tried, declarePoisoned_of_free passed]
      rfl

/-! ## Steps and runs -/

/-- A refused operation that declares no binding, or one whose name is taken, changes nothing. -/
theorem carryOut_refused (sound : state.Sound) {operation : Operation}
    (refused : (state.carryOut operation span).verdict.ok = false)
    (undeclared : ∀ name, operation.declares? = some name → ¬state.Free name) :
    (state.carryOut operation span).state = state := by
  cases operation with
  | declare container element key mode => exact Procedure.declare_intact refused
  | bind binding container perspective =>
      exact Procedure.conclude_of_taken sound (undeclared binding rfl) _
  | push binding operand key conversion =>
      cases operand with
      | value literal => exact Procedure.pushValue_intact refused
      | transfer source effect => exact Procedure.transfer_intact refused
  | pop binding extent => exact Procedure.pop_intact refused
  | peek binding extent => exact Procedure.peek_intact refused
  | borrow binding source extent mode =>
      exact Procedure.conclude_of_taken sound (undeclared binding rfl) _
  | setPerspective binding perspective => exact Procedure.setPerspective_intact refused
  | flip binding => exact Procedure.flip_intact refused
  | capture target source => exact Procedure.capture_intact refused
  | release binding => exact Procedure.release_intact refused
  | choose binding arms fallback => exact Procedure.choose_intact refused
  | enterScope kind => contradiction
  | exitScope => exact Procedure.exitScope_intact refused
  | spawn captures => exact Procedure.spawn_intact refused

/-- A refused operation that declares a binding under a free name adds it without a referent. -/
theorem carryOut_refused_of_free (sound : state.Sound) {operation : Operation}
    (refused : (state.carryOut operation span).verdict.ok = false)
    (declares : operation.declares? = some name) (free : state.Free name) :
    (state.carryOut operation span).state = state.withPoisoned name span := by
  rw [carryOut_eq_perform] at refused ⊢
  cases operation with
  | bind binding container perspective =>
      rw [← Option.some.inj declares] at free ⊢
      exact bind_refused sound free refused
  | borrow binding source extent mode =>
      rw [← Option.some.inj declares] at free ⊢
      exact borrow_refused sound free refused
  | _ => contradiction

theorem perform_refused (sound : state.Sound) {operation : Operation}
    (refused : (state.perform operation span).verdict.ok = false)
    (undeclared : ∀ name, operation.declares? = some name → ¬state.Free name) :
    (state.perform operation span).state = state := by
  rw [← carryOut_eq_perform] at refused ⊢
  exact carryOut_refused sound refused undeclared

end State

namespace Verification

/-- An operation that is carried out in place and not accepted leaves scopes, containers, bindings,
borrows and deferred containers as they were, except that the name of a bind or borrow, if it was
free in the current scope, gets one binding without a referent.  The next state and verdict of a run
are those that the operation in place has come to. -/
theorem refused_changes_nothing (nodes : List Node) (node : Node)
    (refused : ((run {} nodes).state.carryOut node.operation node.span).verdict.ok = false) :
    let before := (run {} nodes).state
    let after := before.carryOut node.operation node.span
    (run {} (nodes ++ [node])).state = after.state ∧
    (run {} (nodes ++ [node])).nodes = (run {} nodes).nodes ++ [⟨node, after.verdict⟩] ∧
    ((∀ name, node.operation.declares? = some name → ¬before.Free name) → after.state = before) ∧
    ∀ name, node.operation.declares? = some name → before.Free name →
      after.state = before.withPoisoned name node.span := by
  intro before after
  have sound : before.Sound := run_sound nodes
  have same : after = before.perform node.operation node.span := before.carryOut_eq_perform ..
  refine ⟨?_, ?_, ?_, ?_⟩
  · rw [run_concat, same]
    rfl
  · rw [run_concat, same]
    rfl
  · exact State.carryOut_refused sound refused
  · intro name declares free
    exact State.carryOut_refused_of_free sound refused declares free

/-- A run that lends one of two numbers to be changed, and the only number of another container to
be read. -/
def lending : List Node :=
  [⟨.declare "numbers" .integer none .owned, {}⟩,
    ⟨.bind "all" "numbers" none, {}⟩,
    ⟨.push "all" (.value (.integer 1)) none none, {}⟩,
    ⟨.push "all" (.value (.integer 2)) none none, {}⟩,
    ⟨.borrow "first" "all" (.range 0 0) .mutable, {}⟩,
    ⟨.declare "others" .integer none .owned, {}⟩,
    ⟨.bind "more" "others" (some .fifo), {}⟩,
    ⟨.push "more" (.value (.integer 3)) none none, {}⟩,
    ⟨.borrow "seen" "more" (.range 0 0) .readOnly, {}⟩]

/-- A move that passes at its source and is refused at its target leaves no trace, and of a borrow
that is refused only the name is left. -/
theorem refused_changes_nothing_lending :
    let moved : Node := ⟨.push "more" (.transfer "all" .move) none none, {}⟩
    let second : Node := ⟨.borrow "second" "all" (.range 0 0) .readOnly, {}⟩
    ((run {} lending).state.carryOut moved.operation moved.span).reports.map (·.step) =
        [some .target] ∧
      (run {} (lending ++ [moved])).state = (run {} lending).state ∧
      (run {} lending).state.Free "second" ∧
      (run {} (lending ++ [second])).state = (run {} lending).state.withPoisoned "second" {} := by
  intro moved second
  obtain ⟨reached, -, unchanged, -⟩ := refused_changes_nothing lending moved (by decide)
  obtain ⟨named, -, -, remembered⟩ := refused_changes_nothing lending second (by decide)
  refine ⟨by decide, reached.trans (unchanged ?_), by decide, named.trans ?_⟩
  · intro name declares
    cases declares
  · exact remembered "second" rfl (by decide)

end Verification

end Custody
