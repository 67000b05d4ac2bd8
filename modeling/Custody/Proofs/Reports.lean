import Custody.Proofs.Rejections

/-!
# What operations report

No operation on a sound state says that anything is stale.  As long as every binding has its
referent, an operation that reports no error is accepted, and leaves every binding its referent;
only a capture of a binding by itself is left out without a word.
-/

namespace Custody

open Check

/-! ## Results -/

namespace Check

variable {α β : Type} {expected : β → Prop}

/-- A check that yields what is expected, or rejects for an ordinary reason. -/
def Yields (expected : β → Prop) : Except Diagnostic β → Prop
  | .ok value => expected value
  | .error diagnostic => diagnostic.isOrdinary = true

theorem yields_bind {check : Except Diagnostic α} {next : α → Except Diagnostic β}
    (ordinary : Ordinary check)
    (yields : ∀ value, check = .ok value → Yields expected (next value)) :
    Yields expected (check >>= next) := by
  cases check with
  | ok value => exact yields value rfl
  | error diagnostic => exact ordinary diagnostic rfl

theorem yields_pure {value : β} (holds : expected value) : Yields expected (pure value) := holds

end Check

namespace State

variable {state after : State} {name : String} {span : Span} {outcome : Outcome}

/-- No binding has lost its referent. -/
def Unpoisoned (state : State) : Prop :=
  ∀ binding ∈ state.bindings, binding.referent ≠ .poisoned

/-- An outcome that says nothing stale, and that reports an error if it is not accepted or takes
the referent from a binding. -/
structure Candid (before : State) (outcome : Outcome) : Prop where
  fresh : ∀ diagnostic ∈ outcome.reports, diagnostic.isStale = false
  frank : before.Unpoisoned → (∀ diagnostic ∈ outcome.reports, diagnostic.isWarning = true) →
    outcome.verdict.ok = true ∧ outcome.state.Unpoisoned

theorem candid_accepted (silent : outcome.reports = []) (accepted : outcome.verdict.ok = true)
    (kept : state.Unpoisoned → outcome.state.Unpoisoned) : state.Candid outcome where
  fresh := by simp [silent]
  frank := fun unpoisoned _ => ⟨accepted, kept unpoisoned⟩

theorem candid_reported {first : Diagnostic} (reported : first ∈ outcome.reports)
    (ordinary : ∀ diagnostic ∈ outcome.reports, diagnostic.isOrdinary = true) :
    state.Candid outcome where
  fresh := fun diagnostic member => Diagnostic.isStale_of_isOrdinary (ordinary diagnostic member)
  frank := by
    intro _ warnings
    have warning := warnings first reported
    rw [Diagnostic.isWarning_of_isOrdinary (ordinary first reported)] at warning
    contradiction

theorem candid_rejected {diagnostic : Diagnostic} (reported : outcome.reports = [diagnostic])
    (ordinary : diagnostic.isOrdinary = true) : state.Candid outcome := by
  have member : diagnostic ∈ outcome.reports := reported ▸ List.mem_singleton_self diagnostic
  refine candid_reported member ?_
  intro other member
  rw [reported] at member
  rw [List.mem_singleton.mp member]
  exact ordinary

/-- An operation is left out without a word only once some binding has lost its referent. -/
theorem candid_left_out (silent : outcome.reports = []) (lost : ¬state.Unpoisoned) :
    state.Candid outcome where
  fresh := by simp [silent]
  frank := fun unpoisoned => (lost unpoisoned).elim

theorem settle_candid {result : Except Diagnostic Outcome} (yields : Yields state.Candid result) :
    state.Candid (state.settle result) := by
  cases result with
  | ok outcome => exact yields
  | error diagnostic => exact candid_rejected rfl yields

/-! ## Referents -/

theorem unpoisoned_of_bindings (same : after.bindings = state.bindings) :
    state.Unpoisoned → after.Unpoisoned := by
  intro unpoisoned binding member
  rw [same] at member
  exact unpoisoned binding member

theorem Unpoisoned.declareBinding (unpoisoned : state.Unpoisoned) {referent : Referent}
    {perspective : Perspective} {declared : Binding × State}
    (bound : state.declareBinding name referent perspective span = .ok declared)
    (refers : referent ≠ .poisoned) : declared.2.Unpoisoned := by
  have added : state.addBinding name referent perspective span = declared :=
    declareBinding_eq_ok bound
  rw [← added]
  intro binding member
  rcases List.mem_append.mp member with old | new
  · exact unpoisoned binding old
  · rw [List.mem_singleton.mp new]
    exact refers

theorem bindings_addBorrow {container : Container} {region : Region} {except : Option RecordId}
    {attempt : Attempt} {result : RecordId × State}
    (added : state.addBorrow container region except attempt span = .ok result) :
    result.2.bindings = state.bindings := by
  unfold addBorrow at added
  split at added
  · simp only [bind_eq_ok, pure_eq_ok] at added
    obtain ⟨_, -, rfl⟩ := added
    rfl
  · rw [← Except.ok.inj added]

theorem bindings_insertAll {access : Access} (planned : List (Placement × Slot)) :
    (state.insertAll access planned).bindings = state.bindings := by
  induction planned generalizing state with
  | nil => rfl
  | cons first rest ih =>
      rw [insertAll_cons, ih]
      exact bindings_insert

theorem bindings_commitTransfer {transfer : Transfer} {result : Option RecordId × State}
    (carriedOut : state.commitTransfer transfer span = .ok result) :
    result.2.bindings = state.bindings := by
  unfold commitTransfer at carriedOut
  split at carriedOut
  · simp only [commitReference, bind_eq_ok, pure_eq_ok, mapError_eq_ok] at carriedOut
    obtain ⟨_, ⟨lent, added, rfl⟩, rfl⟩ := carriedOut
    exact (bindings_insertAll _).trans (bindings_addBorrow added)
  · split at carriedOut
    · rw [← Except.ok.inj carriedOut]
      exact bindings_insertAll _
    · rw [← Except.ok.inj carriedOut]
      exact (bindings_insertAll _).trans bindings_remove

theorem Unpoisoned.modifyBinding (unpoisoned : state.Unpoisoned) {id : BindingId}
    {change : Binding → Binding}
    (refers : ∀ binding, binding.referent ≠ .poisoned → (change binding).referent ≠ .poisoned) :
    (state.modifyBinding id change).Unpoisoned := by
  intro binding member
  obtain ⟨index, found⟩ := List.mem_iff_getElem?.mp member
  simp only [State.modifyBinding, List.getElem?_modify] at found
  obtain ⟨old, lookup, rfl⟩ := Option.map_eq_some_iff.mp found
  have referent := unpoisoned old (List.mem_of_getElem? lookup)
  split
  · exact refers old referent
  · exact referent

/-- In a sound state a binding of an open scope reaches something unless it lost its referent. -/
theorem Sound.accessOf?_ne_none (sound : state.Sound) {binding : Binding}
    (found : state.binding? binding.id = some binding) (opened : binding.scope ∈ state.scopes.path)
    (refers : binding.referent ≠ .poisoned) : state.accessOf? binding ≠ none := by
  have grounds := sound.grounded found opened
  rw [accessOf?]
  cases referent : binding.referent with
  | direct id =>
      rw [referent] at grounds
      obtain ⟨container, lookup, -⟩ := grounds
      simp [lookup]
  | view id =>
      rw [referent] at grounds
      obtain ⟨record, member, rfl, -⟩ := grounds
      obtain ⟨container, backs⟩ := sound.backed record member
      simp [sound.ledger.get?_eq_some_iff.mpr ⟨member, rfl⟩, backs.found]
  | poisoned => exact (refers referent).elim

theorem Unpoisoned.refers (unpoisoned : state.Unpoisoned) {id : BindingId} {binding : Binding}
    (found : state.binding? id = some binding) : binding.referent ≠ .poisoned :=
  unpoisoned binding (List.mem_of_getElem? found)

/-- As long as every binding has its referent, no operation is left out. -/
theorem Unpoisoned.access_ne_none (unpoisoned : state.Unpoisoned) (sound : state.Sound) :
    state.access name span ≠ .ok none := by
  intro skipped
  simp only [State.access, bind_eq_ok, pure_eq_ok] at skipped
  obtain ⟨binding, lookup, nothing⟩ := skipped
  obtain ⟨found, opened⟩ := lookupBinding_eq_ok sound lookup
  exact sound.accessOf?_ne_none found opened (unpoisoned.refers found) nothing

theorem withAccess_candid (sound : state.Sound) {operate : Access → Except Diagnostic Outcome}
    (operates : ∀ access, access.container.isDestroyed = false →
      Yields state.Candid (operate access)) :
    Yields state.Candid (state.withAccess name span operate) := by
  refine yields_bind access_ordinary fun reached found => ?_
  cases reached with
  | some access => exact operates access ((access_eq_ok sound found).1.undestroyed sound)
  | none =>
      refine yields_pure (candid_left_out rfl ?_)
      intro unpoisoned
      exact unpoisoned.access_ne_none sound found

/-! ## Operations -/

theorem declare_candid {element : Element} {key : Option Element} {mode : Mode} :
    Yields state.Candid (state.declare name element key mode span) := by
  refine yields_bind register_ordinary fun registered accepted => yields_pure ?_
  obtain ⟨-, grown⟩ := register_eq_ok accepted
  exact candid_accepted rfl rfl (unpoisoned_of_bindings (by rw [grown]))

theorem declarePoisoned_candid {diagnostic : Diagnostic} (ordinary : diagnostic.isOrdinary = true) :
    Yields state.Candid (state.declarePoisoned name [diagnostic] span) := by
  refine yields_bind declareBinding_ordinary fun _ _ => yields_pure ?_
  exact candid_rejected rfl ordinary

theorem bind_candid (sound : state.Sound) {container : String} {perspective : Option Perspective} :
    Yields state.Candid (state.bind name container perspective span) := by
  refine yields_bind ensureFree_ordinary fun _ _ => ?_
  cases checked : state.checkBind container perspective span with
  | ok found =>
      refine yields_bind declareBinding_ordinary fun declared bound => yields_pure ?_
      exact candid_accepted rfl rfl fun unpoisoned => unpoisoned.declareBinding bound nofun
  | error diagnostic => exact declarePoisoned_candid (checkBind_ordinary sound diagnostic checked)

/-- A borrow fails without a word only where nothing is reached. -/
theorem tryBorrow_eq_ok (sound : state.Sound) {extent : Extent} {mode : BorrowMode}
    {result : Option (RecordId × Container × State)}
    (tried : state.tryBorrow name extent mode span = .ok result) (unpoisoned : state.Unpoisoned) :
    ∃ taken, result = some taken ∧ taken.2.2.bindings = state.bindings := by
  simp only [tryBorrow, bind_eq_ok] at tried
  obtain ⟨reached, found, tried⟩ := tried
  cases reached with
  | none => exact absurd found (unpoisoned.access_ne_none sound)
  | some access =>
      simp only [bind_eq_ok, pure_eq_ok] at tried
      obtain ⟨region, -, lent, added, rfl⟩ := tried
      exact ⟨_, rfl, bindings_addBorrow added⟩

theorem borrow_candid (sound : state.Sound) {source : String} {extent : Extent}
    {mode : BorrowMode} : Yields state.Candid (state.borrow name source extent mode span) := by
  refine yields_bind ensureFree_ordinary fun _ _ => ?_
  cases tried : state.tryBorrow source extent mode span with
  | error diagnostic => exact declarePoisoned_candid (tryBorrow_ordinary sound diagnostic tried)
  | ok result =>
      cases result with
      | none =>
          -- The one name that is declared without a referent and without a report.
          refine yields_bind declareBinding_ordinary fun _ _ => yields_pure ?_
          refine candid_left_out rfl ?_
          intro unpoisoned
          obtain ⟨taken, something, -⟩ := tryBorrow_eq_ok sound tried unpoisoned
          contradiction
      | some taken =>
          refine yields_bind declareBinding_ordinary fun declared bound => yields_pure ?_
          refine candid_accepted rfl rfl fun unpoisoned => ?_
          obtain ⟨_, same, bindings⟩ := tryBorrow_eq_ok sound tried unpoisoned
          cases same
          have borrowed := unpoisoned_of_bindings bindings unpoisoned
          have holds : declared.2.Unpoisoned := borrowed.declareBinding bound nofun
          exact holds

theorem pushValue_candid (sound : state.Sound) {value : Value} {key : Option Value}
    {conversion : Option Conversion} :
    Yields state.Candid (state.pushValue name value key conversion span) := by
  apply withAccess_candid sound
  intro access live
  refine yields_bind (Access.ensureWritable_ordinary live) fun _ _ => ?_
  refine yields_bind Value.convertFor_ordinary fun _ _ => ?_
  refine yields_bind Access.placement_ordinary fun _ _ => ?_
  refine yields_bind Access.checkInsertions_ordinary fun _ _ => yields_pure ?_
  exact candid_accepted rfl rfl (unpoisoned_of_bindings bindings_insert)

theorem transfer_candid (sound : state.Sound) {source : String} {effect : Effect}
    {key : Option Value} {conversion : Option Conversion} :
    Yields state.Candid (state.transfer name source effect key conversion span) := by
  apply withAccess_candid sound
  intro target targetLive
  refine yields_bind (ordinary_inStep.mpr access_ordinary) fun reached found => ?_
  rw [mapError_eq_ok] at found
  cases reached with
  | none =>
      refine yields_pure (candid_left_out rfl ?_)
      intro unpoisoned
      exact unpoisoned.access_ne_none sound found
  | some origin =>
      have sourceLive := (access_eq_ok sound found).1.undestroyed sound
      refine yields_bind (checkTransfer_ordinary sourceLive targetLive) fun checked _ => ?_
      refine yields_bind commitTransfer_ordinary fun committed carriedOut => yields_pure ?_
      exact candid_accepted rfl rfl (unpoisoned_of_bindings (bindings_commitTransfer carriedOut))

theorem pop_candid (sound : state.Sound) {extent : Option Extent} :
    Yields state.Candid (state.pop name extent span) := by
  apply withAccess_candid sound
  intro access live
  refine yields_bind (Access.checkPop_ordinary live) fun _ _ => yields_pure ?_
  exact candid_accepted rfl rfl (unpoisoned_of_bindings bindings_remove)

theorem peek_candid (sound : state.Sound) {extent : Option Extent} :
    Yields state.Candid (state.peek name extent span) := by
  apply withAccess_candid sound
  intro access live
  refine yields_bind (Access.checkPeek_ordinary live) fun _ _ => yields_pure ?_
  exact candid_accepted rfl rfl id

theorem setPerspective_candid (sound : state.Sound) {perspective : Perspective} :
    Yields state.Candid (state.setPerspective name perspective span) := by
  apply withAccess_candid sound
  intro access _
  refine yields_bind (by simp [Stance.set]) fun _ _ => yields_pure ?_
  exact candid_accepted rfl rfl fun unpoisoned => unpoisoned.modifyBinding fun _ refers => refers

theorem flip_candid (sound : state.Sound) : Yields state.Candid (state.flip name span) := by
  apply withAccess_candid sound
  intro access _
  have ordinary : Ordinary (access.binding.stance.flip span) := by
    unfold Stance.flip
    split <;> simp
  refine yields_bind ordinary fun _ _ => yields_pure ?_
  exact candid_accepted rfl rfl fun unpoisoned => unpoisoned.modifyBinding fun _ refers => refers

theorem choose_candid (sound : state.Sound) {arms : List Perspective} {fallback : Bool} :
    Yields state.Candid (state.choose name arms fallback span) := by
  apply withAccess_candid sound
  intro access _
  -- Arms that are missing are warned about, and the choice is accepted all the same.
  refine ⟨?_, fun unpoisoned _ => ⟨rfl, unpoisoned⟩⟩
  intro diagnostic member
  dsimp only at member
  split at member
  · exact absurd member List.not_mem_nil
  · rw [List.mem_singleton.mp member]
    rfl

theorem release_candid (sound : state.Sound) : Yields state.Candid (state.release name span) := by
  apply withAccess_candid sound
  intro access live
  refine yields_bind (Container.ensureUsable_ordinary live) fun _ _ => ?_
  dsimp only
  split
  · exact yields_bind (ordinary_throw.mpr rfl) nofun
  · split
    · exact yields_bind (ordinary_throw.mpr rfl) nofun
    · exact yields_pure (candid_accepted rfl rfl id)

theorem spawn_candid (sound : state.Sound) (captures : List Capture) :
    state.Candid (state.spawn captures span) := by
  have kept : ∀ {moved : List ContainerId} {state : State},
      (moved.foldl (fun state id => state.markMoved id span) state).bindings = state.bindings := by
    intro moved
    induction moved with
    | nil => exact rfl
    | cons first rest ih => exact ih
  have ordinary : ∀ diagnostic ∈ failures (captures.map fun capture =>
      state.checkTaskCapture capture span), diagnostic.isOrdinary = true := by
    intro diagnostic member
    obtain ⟨result, listed, failed⟩ := List.mem_filterMap.mp member
    obtain ⟨capture, -, rfl⟩ := List.mem_map.mp listed
    split at failed
    · rename_i reported checked
      exact checkTaskCapture_ordinary sound diagnostic (Option.some.inj failed ▸ checked)
    · contradiction
  simp only [spawn]
  split
  · exact candid_accepted rfl rfl (unpoisoned_of_bindings kept)
  · rename_i reported
    rw [List.isEmpty_iff] at reported
    obtain ⟨first, member⟩ := List.exists_mem_of_ne_nil _ reported
    exact candid_reported member ordinary

/-! ## Captures -/

/-- Whether an operation captures a binding by itself: both of its names mean that binding. -/
def CapturesItself (state : State) : Operation → Prop
  | .capture target source => ∃ binding,
      (state.scopes.findBinding? target).bind state.binding? = some binding ∧
      (state.scopes.findBinding? source).bind state.binding? = some binding
  | _ => False

/-- A capture of a binding by itself is left out without a word. -/
theorem perform_itself {operation : Operation} (itself : state.CapturesItself operation) :
    state.perform operation span = .skipped state := by
  cases operation with
  | capture target source =>
      obtain ⟨binding, targetFound, sourceFound⟩ := itself
      have skipped : state.capture target source span = .ok (.skipped state) := by
        rw [capture, lookupBinding_eq_ok_iff.mpr targetFound,
          lookupBinding_eq_ok_iff.mpr sourceFound]
        exact if_pos rfl
      rw [perform, skipped]
      rfl
  | _ => exact itself.elim

theorem checkCapture_eq_none {target source : Binding}
    (checked : state.checkCapture target source span = .ok none) :
    state.accessOf? source = none := by
  cases referent : source.referent with
  | poisoned => simp only [accessOf?, referent]
  | view id =>
      simp only [checkCapture, accessOf?, referent] at checked ⊢
      cases found : state.ledger.get? id with
      | none => rfl
      | some record =>
          simp only [found] at checked
          split at checked
          · rw [Option.bind_some, Except.ok.inj checked]
            rfl
          · contradiction
  | direct id =>
      simp only [checkCapture, accessOf?, referent] at checked ⊢
      cases found : state.container? id with
      | none => rfl
      | some container =>
          simp only [found, bind_eq_ok, pure_eq_ok] at checked
          obtain ⟨_, -, something⟩ := checked
          contradiction

theorem capture_candid (sound : state.Sound) {source : String}
    (another : ¬state.CapturesItself (.capture name source)) :
    Yields state.Candid (state.capture name source span) := by
  refine yields_bind lookupBinding_ordinary fun target targetFound => ?_
  refine yields_bind lookupBinding_ordinary fun origin originFound => ?_
  obtain ⟨targetStored, -⟩ := lookupBinding_eq_ok sound targetFound
  obtain ⟨originStored, opened⟩ := lookupBinding_eq_ok sound originFound
  have different : target.id ≠ origin.id := by
    intro same
    rw [same, originStored, Option.some.injEq] at targetStored
    exact another ⟨origin, targetStored ▸ lookupBinding_eq_ok_iff.mp targetFound,
      lookupBinding_eq_ok_iff.mp originFound⟩
  have reaches : state.Unpoisoned → state.accessOf? origin ≠ none := fun unpoisoned =>
    sound.accessOf?_ne_none originStored opened (unpoisoned.refers originStored)
  rw [if_neg different]
  refine yields_bind (checkCapture_ordinary sound originFound) fun captured checked => ?_
  cases captured with
  | none =>
      refine yields_pure (candid_left_out rfl ?_)
      intro unpoisoned
      exact reaches unpoisoned (checkCapture_eq_none checked)
  | some container =>
      refine yields_bind checkCaptureTypes_ordinary fun _ _ => ?_
      obtain ⟨access, reached⟩ := @accessOf?_of_checkCapture state span target origin
        { target with
          referent := origin.referent
          capturedAt := some span } _ checked rfl
      dsimp only
      split
      · refine yields_pure (candid_accepted rfl rfl fun unpoisoned => ?_)
        have refers := unpoisoned.refers originStored
        exact unpoisoned.modifyBinding fun _ _ => refers
      · -- The change of the binding leaves borrows and containers as they are.
        rename_i nothing
        cases reached.symm.trans nothing

/-! ## Exits -/

theorem isOrdinary_of_isDangling {diagnostic : Diagnostic} (dangling : IsDangling diagnostic) :
    diagnostic.isOrdinary = true := by
  obtain ⟨binding, container, violation⟩ := dangling
  rw [Diagnostic.isOrdinary, violation]
  rfl

/-- What is closed without a word takes the referent from no binding. -/
theorem bindings_poisonAll {bindings : List Binding} {cause : Binding → LifetimeBreach}
    (silent : (state.poisonAll bindings cause span).reports = []) :
    (state.poisonAll bindings cause span).state.bindings = state.bindings := by
  rw [List.map_eq_nil_iff.mp silent]
  rfl

theorem bindings_endContainer {id : ContainerId}
    (silent : (state.endContainer id span).reports = []) :
    (state.endContainer id span).state.bindings = state.bindings := by
  unfold endContainer at silent ⊢
  cases found : state.container? id with
  | none => rfl
  | some container =>
      simp only [found] at silent ⊢
      split
      · rfl
      · rename_i living
        rw [if_neg living] at silent
        cases action : container.mode.onExit with
        | destroy =>
            simp only [action] at silent ⊢
            exact bindings_poisonAll silent
        | forget => rfl
        | defer => rfl

theorem bindings_endContainers {ids : List ContainerId}
    (silent : (state.endContainers ids span).reports = []) :
    (state.endContainers ids span).state.bindings = state.bindings := by
  induction ids generalizing state with
  | nil => rfl
  | cons id rest ih =>
      rw [endContainers_cons] at silent ⊢
      obtain ⟨first, later⟩ := List.append_eq_nil_iff.mp silent
      exact (ih later).trans (bindings_endContainer first)

theorem bindings_closeScope {scope : ScopeId}
    (silent : (state.closeScope scope span).reports = []) :
    (state.closeScope scope span).state.bindings = state.bindings := by
  obtain ⟨first, later⟩ := List.append_eq_nil_iff.mp silent
  exact (bindings_poisonAll later).trans (bindings_endContainers first)

theorem bindings_exitScope {closing : Closing} (exits : state.exitScope? span = some closing)
    (silent : closing.reports = []) : closing.state.bindings = state.bindings := by
  obtain ⟨⟨scope, scopes⟩, -, rfl⟩ := Option.map_eq_some_iff.mp exits
  exact bindings_closeScope silent

theorem exitScope_candid (sound : state.Sound) : state.Candid (state.exitScope span) := by
  rw [exitScope]
  cases exits : state.exitScope? span with
  | none => exact candid_rejected rfl rfl
  | some closing =>
      obtain ⟨-, dangling, -⟩ := sound.exitScope? exits
      have ordinary : ∀ diagnostic ∈ closing.reports, diagnostic.isOrdinary = true :=
        fun diagnostic member => isOrdinary_of_isDangling (dangling diagnostic member)
      by_cases silent : closing.reports = []
      · exact candid_accepted silent rfl (unpoisoned_of_bindings (bindings_exitScope exits silent))
      · obtain ⟨first, member⟩ := List.exists_mem_of_ne_nil _ silent
        exact candid_reported member ordinary

/-! ## All operations -/

/-- Every operation is candid, but for captures of a binding by itself. -/
theorem perform_candid (sound : state.Sound) {operation : Operation}
    (another : ¬state.CapturesItself operation) (span : Span) :
    state.Candid (state.perform operation span) := by
  cases operation with
  | declare container element key mode => exact settle_candid declare_candid
  | bind binding container perspective => exact settle_candid (bind_candid sound)
  | push binding operand key conversion =>
      cases operand with
      | value literal => exact settle_candid (pushValue_candid sound)
      | transfer source effect => exact settle_candid (transfer_candid sound)
  | pop binding extent => exact settle_candid (pop_candid sound)
  | peek binding extent => exact settle_candid (peek_candid sound)
  | borrow binding source extent mode => exact settle_candid (borrow_candid sound)
  | setPerspective binding perspective => exact settle_candid (setPerspective_candid sound)
  | flip binding => exact settle_candid (flip_candid sound)
  | capture target source => exact settle_candid (capture_candid sound another)
  | release binding => exact settle_candid (release_candid sound)
  | choose binding arms fallback => exact settle_candid (choose_candid sound)
  | enterScope kind => exact candid_accepted rfl rfl id
  | exitScope => exact exitScope_candid sound
  | spawn captures => exact spawn_candid sound captures

end State

end Custody
