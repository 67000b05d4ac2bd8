import Custody.Proofs.Endings
import Custody.Proofs.Places

/-!
# Where findings stand

Every finding stands at the operation that it is about, what it is related to stands at an earlier
operation, and a conflict or a breach of lifetimes is always related to one.  There is one lemma for
each check, given that all that the check looks at comes from known places.
-/

namespace Custody

/-- Whether violations of a kind come from an earlier operation, which is then named. -/
@[simp] def Violation.isRelational : Violation → Bool
  | .conflict _ | .lifetime _ => true
  | _ => false

/-- A finding of the operation at a place: it stands there, what it is related to stands at one of
the known places, and a conflict or a breach of lifetimes is related to something. -/
structure Diagnostic.Points (known : List Span) (span : Span) (diagnostic : Diagnostic) : Prop where
  span : diagnostic.span = span
  related : ∀ related, diagnostic.related = some related → related.span ∈ known
  marked : diagnostic.kind = .borrowConflict ∨ diagnostic.kind = .lifetimeViolation →
    diagnostic.related.isSome = true

variable {known : List Span} {span : Span}

namespace Diagnostic

theorem isRelational_iff {violation : Violation} : violation.isRelational = true ↔
    violation.kind = .borrowConflict ∨ violation.kind = .lifetimeViolation := by
  cases violation <;> simp [Violation.kind]

@[simp] theorem points_plain {violation : Violation} :
    (plain violation span).Points known span ↔ violation.isRelational = false := by
  rw [← Bool.not_eq_true, isRelational_iff]
  constructor
  · intro points relational
    have marked := points.marked relational
    contradiction
  · intro unrelated
    exact ⟨rfl, nofun, fun relational => (unrelated relational).elim⟩

@[simp] theorem points_about {violation : Violation} {earlier : Span} {relation : Relation} :
    (about violation span earlier relation).Points known span ↔ earlier ∈ known := by
  constructor
  · intro points
    exact points.related _ rfl
  · intro member
    exact ⟨rfl, fun _ same => Option.some.inj same ▸ member, fun _ => rfl⟩

@[simp] theorem points_inStep {diagnostic : Diagnostic} {step : TransferStep} :
    (diagnostic.inStep step).Points known span ↔ diagnostic.Points known span :=
  ⟨fun points => ⟨points.span, points.related, points.marked⟩,
    fun points => ⟨points.span, points.related, points.marked⟩⟩

end Diagnostic

/-! ## Checks in general -/

namespace Check

variable {α β : Type}

/-- A check whose findings stand where they should. -/
def Points (known : List Span) (span : Span) (check : Except Diagnostic α) : Prop :=
  ∀ diagnostic, check = .error diagnostic → diagnostic.Points known span

@[simp] theorem points_ok (value : α) : Points known span (.ok value) := by
  intro diagnostic failed
  contradiction

@[simp] theorem points_pure (value : α) : Points known span (pure value) := points_ok value

@[simp] theorem points_error {diagnostic : Diagnostic} :
    Points known span (.error diagnostic : Except Diagnostic α) ↔
      diagnostic.Points known span := by
  simp [Points]

@[simp] theorem points_throw {diagnostic : Diagnostic} :
    Points known span (throw diagnostic : Except Diagnostic α) ↔ diagnostic.Points known span :=
  points_error

@[simp] theorem points_bind {check : Except Diagnostic α} {next : α → Except Diagnostic β} :
    Points known span (check >>= next) ↔
      Points known span check ∧ ∀ value, check = .ok value → Points known span (next value) := by
  cases check <;> simp [Points, bind, Except.bind]

@[simp] theorem points_map {check : Except Diagnostic α} {change : α → β} :
    Points known span (change <$> check) ↔ Points known span check := by
  cases check <;> simp [Points, Functor.map, Except.map]

@[simp] theorem points_ite {condition : Prop} [Decidable condition]
    {first second : Except Diagnostic α} :
    Points known span (if condition then first else second) ↔
      (condition → Points known span first) ∧ (¬condition → Points known span second) := by
  split <;> simp_all

theorem points_mapError {φ : Type} {check : Except φ α} {rename : φ → Diagnostic}
    (renamed : ∀ fault, check = .error fault → (rename fault).Points known span) :
    Points known span (check.mapError rename) := by
  cases check with
  | ok value => exact points_ok value
  | error fault => exact points_error.mpr (renamed fault rfl)

@[simp] theorem points_inStep {check : Except Diagnostic α} {step : TransferStep} :
    Points known span (check.mapError (·.inStep step)) ↔ Points known span check := by
  cases check <;> simp [Points, Except.mapError]

@[simp] theorem points_mapM {check : α → Except Diagnostic β} {members : List α}
    (each : ∀ member, Points known span (check member)) :
    Points known span (members.mapM check) := by
  induction members with
  | nil => simp
  | cons first rest ih => simp [List.mapM_cons, each, ih]

end Check

open Check

/-! ## Names and containers -/

namespace State

variable {state : State} {name : String}

@[simp] theorem lookupBinding_points : Points known span (state.lookupBinding name span) := by
  unfold lookupBinding
  split <;> simp

@[simp] theorem lookupContainer_points : Points known span (state.lookupContainer name span) := by
  unfold lookupContainer
  split <;> simp

@[simp] theorem access_points : Points known span (state.access name span) := by
  simp [State.access]

theorem Placed.ensureFree_points (placed : state.Placed known) :
    Points known span (state.ensureFree name span) := by
  unfold ensureFree
  split
  · rename_i earlier bound
    obtain ⟨id, -, found⟩ := Option.bind_eq_some_iff.mp bound
    simpa using (placed.bindings earlier (List.mem_of_getElem? found)).span
  · simp

theorem Placed.register_points (placed : state.Placed known) {element : Element}
    {key : Option Element} {mode : Mode} :
    Points known span (state.register name element key mode span) := by
  unfold State.register
  simp only
  split
  · rename_i earlier declared
    obtain ⟨id, -, found⟩ := Option.bind_eq_some_iff.mp declared
    have known := (placed.containers earlier (List.mem_of_getElem? found)).span
    split <;> simp [known]
  · simp

theorem Placed.declareBinding_points (placed : state.Placed known) {referent : Referent}
    {perspective : Perspective} :
    Points known span (state.declareBinding name referent perspective span) := by
  simp [declareBinding, placed.ensureFree_points]

end State

theorem Container.Placed.ensureUsable_points {container : Container}
    (placed : container.Placed known) : Points known span (container.ensureUsable span) := by
  unfold Container.ensureUsable
  split
  · rename_i earlier moved
    simpa using placed.moved earlier moved
  · split
    · simp
    · simp
    · rename_i earlier ended
      simpa using placed.ended earlier (by rw [ended]; rfl)
    · rename_i earlier ended
      simpa using placed.ended earlier (by rw [ended]; rfl)

@[simp] theorem Container.positionOfKey_points {container : Container} {keyType : Element}
    {key : Value} : Points known span (container.positionOfKey keyType key span) := by
  unfold positionOfKey
  split
  · simp
  · split <;> simp

@[simp] theorem Container.resolve_points {container : Container} {extent : Extent} :
    Points known span (container.resolve extent span) := by
  unfold resolve
  split
  · simp
  · split <;> simp

@[simp] theorem Value.convertFor_points {value : Value} {conversion : Option Conversion}
    {target : Element} : Points known span (value.convertFor conversion target span) := by
  unfold convertFor
  split
  · simp
  · exact points_mapError fun _ _ => by simp

/-- The borrow that a write or a read meets is one of the ledger. -/
theorem Ledger.mem_of_firstConflict {ledger : Ledger} {container : ContainerId}
    {footprint : SlotSet} {except : Option RecordId} {mutableOnly : Bool} {record : BorrowRecord}
    (meets : ledger.firstConflict container footprint except mutableOnly = .error record) :
    record ∈ ledger.records := by
  simp only [firstConflict] at meets
  split at meets
  · rename_i found first
    rw [← Except.error.inj meets]
    exact mem_records_of_mem_recordsOn (List.mem_of_find?_eq_some first)
  · contradiction

theorem Ledger.mem_of_checkWrite {ledger : Ledger} {container : ContainerId} {footprint : SlotSet}
    {except : Option RecordId} {record : BorrowRecord}
    (meets : ledger.checkWrite container footprint except = .error record) :
    record ∈ ledger.records := by
  unfold checkWrite at meets
  split at meets
  · exact mem_of_firstConflict meets
  · contradiction

theorem Ledger.mem_of_checkRead {ledger : Ledger} {container : ContainerId} {footprint : SlotSet}
    {except : Option RecordId} {record : BorrowRecord}
    (meets : ledger.checkRead container footprint except = .error record) :
    record ∈ ledger.records := by
  unfold checkRead at meets
  split at meets
  · exact mem_of_firstConflict meets
  · contradiction

theorem Ledger.mem_of_borrow {ledger : Ledger} {region : Region} {except : Option RecordId}
    {record : BorrowRecord} (meets : ledger.borrow region except = .error record) :
    record ∈ ledger.records := by
  unfold Ledger.borrow at meets
  split at meets
  · cases checked : ledger.checkWrite region.container region.slots except with
    | ok _ => simp [checked] at meets
    | error other =>
        rw [checked] at meets
        exact Except.error.inj meets ▸ mem_of_checkWrite checked
  · cases checked : ledger.checkRead region.container region.slots except with
    | ok _ => simp [checked] at meets
    | error other =>
        rw [checked] at meets
        exact Except.error.inj meets ▸ mem_of_checkRead checked

theorem Ledger.Placed.firstOn? {ledger : Ledger} (placed : ledger.Placed known)
    {container : ContainerId} {except : Option RecordId} {record : BorrowRecord}
    (first : ledger.firstOn? container except = some record) : record.span ∈ known :=
  placed record (mem_records_of_mem_recordsOn (List.mem_of_find?_eq_some first))

/-- A conflict with a borrow of the ledger points at where that was taken. -/
theorem Ledger.Placed.conflict {ledger : Ledger} (placed : ledger.Placed known)
    {record : BorrowRecord} (member : record ∈ ledger.records) (attempt : Attempt) :
    (record.conflict attempt span).Points known span :=
  Diagnostic.points_about.mpr (placed record member)

/-! ## Checks on an access -/

namespace Access

variable {access source target : Access} {ledger : Ledger}

theorem Placed.ensureWritable_points (placed : access.Placed known) {action : WriteAction} :
    Points known span (access.ensureWritable action span) := by
  simp only [ensureWritable, points_bind]
  refine ⟨placed.container.ensureUsable_points, fun _ _ => ?_⟩
  split
  · simp
  · split
    · rename_i record viewed
      simp [placed.view record viewed]
    · simp

theorem ensureUnborrowed_points (placed : ledger.Placed known) {footprint : SlotSet}
    {attempt : Attempt} :
    Points known span (access.ensureUnborrowed ledger footprint attempt span) := by
  unfold ensureUnborrowed
  split
  · exact points_mapError fun _ meets => placed.conflict (Ledger.mem_of_checkWrite meets) attempt
  · simp

theorem ensureReadable_points (placed : ledger.Placed known) {footprint : SlotSet}
    {attempt : Attempt} :
    Points known span (access.ensureReadable ledger footprint attempt span) := by
  unfold ensureReadable
  split
  · exact points_mapError fun _ meets => placed.conflict (Ledger.mem_of_checkRead meets) attempt
  · simp

@[simp] theorem removal_points {extent : Option Extent} :
    Points known span (access.removal extent span) := by
  unfold removal
  split <;> simp

theorem Placed.checkPop_points (placed : access.Placed known) (ledgerPlaced : ledger.Placed known)
    {extent : Option Extent} : Points known span (access.checkPop ledger extent span) := by
  simp only [checkPop, points_bind]
  refine ⟨placed.ensureWritable_points, fun _ _ => ⟨removal_points, fun _ _ => ?_⟩⟩
  split
  · rename_i record viewed
    simp [placed.view record viewed, ensureUnborrowed_points ledgerPlaced]
  · simp [ensureUnborrowed_points ledgerPlaced]

@[simp] theorem reading_points {extent : Option Extent} :
    Points known span (access.reading extent span) := by
  unfold reading
  split <;> simp

theorem Placed.checkPeek_points (placed : access.Placed known) (ledgerPlaced : ledger.Placed known)
    {extent : Option Extent} : Points known span (access.checkPeek ledger extent span) := by
  simp only [checkPeek, points_bind]
  refine ⟨placed.container.ensureUsable_points, fun _ _ => ⟨reading_points, fun _ _ => ?_⟩⟩
  split <;> simp [ensureReadable_points ledgerPlaced]

@[simp] theorem placement_points {key : Option Value} :
    Points known span (access.placement key span) := by
  simp only [Access.placement]
  split
  · simp
  · split <;> simp
  · simp
  · simp
  · simp

theorem Placed.checkInsertions_points (placed : access.Placed known)
    (ledgerPlaced : ledger.Placed known) {placements : List Placement} :
    Points known span (access.checkInsertions ledger placements span) := by
  simp only [checkInsertions]
  split
  · rename_i record viewed
    split <;> simp [placed.view record viewed, ensureUnborrowed_points ledgerPlaced]
  · exact ensureUnborrowed_points ledgerPlaced

theorem Placed.ensureHeadInView_points (placed : access.Placed known) {head : Nat} :
    Points known span (access.ensureHeadInView head span) := by
  unfold ensureHeadInView
  split
  · rename_i record viewed
    simp [placed.view record viewed]
  · simp

theorem Placed.checkMove_points (placed : source.Placed known) (ledgerPlaced : ledger.Placed known)
    {head : Nat} : Points known span (source.checkMove ledger head span) := by
  simp [checkMove, placed.ensureWritable_points, placed.ensureHeadInView_points,
    ensureUnborrowed_points ledgerPlaced]

theorem checkTake_points (placed : ledger.Placed known) :
    Points known span (source.checkTake ledger span) := by
  simp only [checkTake]
  split
  · simp
  · split
    · simp
    · split
      · rename_i record first
        simp [placed.firstOn? first]
      · simp

theorem Placed.checkReference_points (placed : source.Placed known)
    (ledgerPlaced : ledger.Placed known) {effect : Effect} {mode : BorrowMode} {head : Nat} :
    Points known span (source.checkReference ledger effect mode head span) := by
  simp only [checkReference]
  split
  · simp
  · split
    · rename_i record viewed
      simp [placed.view record viewed, placed.ensureHeadInView_points,
        ensureUnborrowed_points ledgerPlaced, ensureReadable_points ledgerPlaced]
    · simp [placed.ensureHeadInView_points, ensureUnborrowed_points ledgerPlaced,
        ensureReadable_points ledgerPlaced]

theorem Placed.checkSource_points (placed : source.Placed known)
    (ledgerPlaced : ledger.Placed known) {effect : Effect} :
    Points known span (source.checkSource target ledger effect span) := by
  simp only [checkSource, points_bind]
  refine ⟨placed.container.ensureUsable_points, fun _ _ => ?_⟩
  cases effect <;> simp [placed.checkMove_points ledgerPlaced, checkTake_points ledgerPlaced,
    placed.checkReference_points ledgerPlaced]

@[simp] theorem convertSlot_points {kind : Option Conversion} {found wanted : Element}
    {slot : Slot} : Points known span (convertSlot kind found wanted span slot) := by
  unfold convertSlot
  split
  · simp only [points_bind, points_pure, implies_true, and_true]
    exact points_mapError fun _ _ => by simp
  · simp

@[simp] theorem convertSlots_points {effect : Effect} {conversion : Option Conversion}
    {head : Nat} :
    Points known span (source.convertSlots target effect conversion head span) := by
  cases conversion with
  | none => simp [convertSlots]
  | some kind =>
      simp only [convertSlots]
      split
      · simp
      · split <;> simp

@[simp] theorem placeTaken_points {slot : Slot} :
    Points known span (placeTaken source target span slot) := by
  unfold placeTaken
  split <;> simp

@[simp] theorem takePlacements_points {slots : List Slot} :
    Points known span (takePlacements source target slots span) := by
  simp only [takePlacements]
  split <;> simp

theorem Placed.checkTarget_points (placed : target.Placed known)
    (ledgerPlaced : ledger.Placed known) {effect : Effect} {key : Option Value}
    {slots : List Slot} :
    Points known span (target.checkTarget source ledger effect key slots span) := by
  simp only [checkTarget, points_bind]
  refine ⟨placed.ensureWritable_points, fun _ _ => ?_⟩
  split
  · split <;> simp [placed.checkInsertions_points ledgerPlaced]
  · simp [placed.checkInsertions_points ledgerPlaced]

end Access

/-! ## Checks on a state -/

namespace State

variable {state : State} {name : String}

theorem Placed.checkTransfer_points (placed : state.Placed known) {source target : Access}
    (sourcePlaced : source.Placed known) (targetPlaced : target.Placed known) {effect : Effect}
    {key : Option Value} {conversion : Option Conversion} :
    Points known span (state.checkTransfer target source effect key conversion span) := by
  simp [checkTransfer, sourcePlaced.checkSource_points placed.ledger,
    targetPlaced.checkTarget_points placed.ledger]

theorem Placed.addBorrow_points (placed : state.Placed known) {container : Container}
    {region : Region} {except : Option RecordId} {attempt : Attempt} :
    Points known span (state.addBorrow container region except attempt span) := by
  unfold State.addBorrow
  split
  · simp only [points_bind, points_pure, implies_true, and_true]
    exact points_mapError fun _ meets =>
      placed.ledger.conflict (Ledger.mem_of_borrow meets) attempt
  · simp

theorem Placed.commitTransfer_points (placed : state.Placed known) {transfer : Transfer} :
    Points known span (state.commitTransfer transfer span) := by
  unfold State.commitTransfer
  split
  · simp [commitReference, placed.addBorrow_points]
  · simp

theorem checkBorrow_points {access : Access} (placed : access.Placed known) {extent : Extent}
    {mode : BorrowMode} : Points known span (state.checkBorrow access extent mode span) := by
  simp only [checkBorrow, points_bind]
  refine ⟨placed.container.ensureUsable_points, fun _ _ => ?_⟩
  split
  · simp
  · simp only [points_bind, Container.resolve_points, true_and]
    intro slots _
    split
    · rename_i record viewed
      simp [placed.view record viewed, placed.container.span]
    · simp [placed.container.span]

theorem span_of_checkBorrow {access : Access} {extent : Extent} {mode : BorrowMode}
    {region : Region} (passed : state.checkBorrow access extent mode span = .ok region) :
    region.span = span := by
  simp only [checkBorrow, Check.throw_eq_error, Check.error_bind, Check.reject_eq_ok,
    Check.bind_eq_ok] at passed
  obtain ⟨_, -, -, slots, -, rest⟩ := passed
  split at rest
  · simp only [Check.reject_eq_ok, Check.pure_eq_ok] at rest
    obtain ⟨-, -, -, rfl⟩ := rest
    rfl
  · simp only [Check.reject_eq_ok, Check.pure_eq_ok] at rest
    obtain ⟨-, rfl⟩ := rest
    rfl

theorem Placed.tryBorrow_points (placed : state.Placed known) {extent : Extent}
    {mode : BorrowMode} : Points known span (state.tryBorrow name extent mode span) := by
  simp only [tryBorrow, points_bind, access_points, true_and]
  intro reached found
  split
  · simp
  · simp [checkBorrow_points (placed.access found), placed.addBorrow_points]

theorem Placed.checkBind_points (placed : state.Placed known) {perspective : Option Perspective} :
    Points known span (state.checkBind name perspective span) := by
  simp only [checkBind, points_bind, lookupContainer_points, true_and]
  intro container lookup
  have inside : container.Placed known := by
    unfold lookupContainer at lookup
    split at lookup
    · rename_i found there
      obtain ⟨id, -, stored⟩ := Option.bind_eq_some_iff.mp there
      exact Except.ok.inj lookup ▸ placed.containers found (List.mem_of_getElem? stored)
    · contradiction
  refine ⟨inside.ensureUsable_points, fun _ _ => ?_⟩
  split <;> simp

theorem Placed.checkCapture_points (placed : state.Placed known) {target source : Binding} :
    Points known span (state.checkCapture target source span) := by
  unfold checkCapture
  split
  · simp
  · split
    · simp
    · rename_i record active
      have taken := placed.ledger record (Ledger.mem_of_get? active).1
      split <;> simp [taken]
  · split
    · simp
    · rename_i container found
      have inside := placed.containers container (List.mem_of_getElem? found)
      simp [inside.ensureUsable_points]

@[simp] theorem checkCaptureTypes_points {target source : Binding} {container : Container} :
    Points known span (state.checkCaptureTypes target source container span) := by
  unfold checkCaptureTypes
  split <;> simp

theorem Placed.checkTaskCapture_points (placed : state.Placed known) {capture : Capture} :
    Points known span (state.checkTaskCapture capture span) := by
  simp only [checkTaskCapture, points_bind, lookupBinding_points, true_and]
  intro binding _
  split
  · simp
  · rename_i record reached
    have viewed := (placed.accessOf? reached).view record rfl
    split <;> simp [viewed]
  · rename_i container reached
    have inside := (placed.accessOf? reached).container
    simp only [points_bind]
    refine ⟨inside.ensureUsable_points, fun _ _ => ?_⟩
    split
    · split <;> simp
    · split
      · simpa using inside.span
      · split
        · simp
        · split
          · rename_i record first
            simpa using placed.ledger.firstOn? first
          · simp

end State

/-! ## Outcomes -/

/-- An outcome that remembers known places only and whose findings stand where they should. -/
structure Outcome.Placed (known : List Span) (span : Span) (outcome : Outcome) : Prop where
  state : outcome.state.Placed known
  reports : ∀ diagnostic ∈ outcome.reports, diagnostic.Points known span

namespace Check

variable {α : Type}

/-- A check that yields an outcome in place, or a finding. -/
def Settles (known : List Span) (span : Span) : Except Diagnostic Outcome → Prop
  | .ok outcome => outcome.Placed known span
  | .error diagnostic => diagnostic.Points known span

theorem settles_bind {check : Except Diagnostic α} {next : α → Except Diagnostic Outcome}
    (points : Points known span check)
    (settles : ∀ value, check = .ok value → Settles known span (next value)) :
    Settles known span (check >>= next) := by
  cases check with
  | ok value => exact settles value rfl
  | error diagnostic => exact points diagnostic rfl

/-- An outcome without a finding. -/
theorem settles_silent {state : State} {verdict : Verdict} (placed : state.Placed known) :
    Settles known span (pure ⟨state, verdict, []⟩) :=
  ⟨placed, fun _ member => absurd member List.not_mem_nil⟩

end Check

namespace State

variable {state : State} {name : String}

theorem Placed.settle (placed : state.Placed known) {result : Except Diagnostic Outcome}
    (settles : Settles known span result) : (state.settle result).Placed known span := by
  cases result with
  | ok outcome => exact settles
  | error diagnostic =>
      refine ⟨placed, ?_⟩
      intro other member
      rw [List.mem_singleton.mp member]
      exact settles

theorem Placed.withAccess (placed : state.Placed known)
    {operate : Access → Except Diagnostic Outcome}
    (operates : ∀ access, access.Placed known → Settles known span (operate access)) :
    (state.settle (state.withAccess name span operate)).Placed known span := by
  apply placed.settle
  refine settles_bind access_points fun reached found => ?_
  cases reached with
  | some access => exact operates access (placed.access found)
  | none => exact settles_silent placed

/-! ## Operations -/

theorem Placed.declare (placed : state.Placed known) (here : span ∈ known) {element : Element}
    {key : Option Element} {mode : Mode} :
    (state.settle (state.declare name element key mode span)).Placed known span := by
  apply placed.settle
  refine settles_bind placed.register_points fun _ declared => ?_
  exact settles_silent (placed.register here declared)

theorem Placed.declareBinding (placed : state.Placed known) (here : span ∈ known)
    {referent : Referent} {perspective : Perspective} {declared : Binding × State}
    (bound : state.declareBinding name referent perspective span = .ok declared) :
    declared.2.Placed known := by
  have added : state.addBinding name referent perspective span = declared :=
    declareBinding_eq_ok bound
  rw [← added]
  exact placed.addBinding here name referent perspective

theorem Placed.declarePoisoned (placed : state.Placed known) (here : span ∈ known)
    {reports : List Diagnostic} (points : ∀ diagnostic ∈ reports, diagnostic.Points known span) :
    Settles known span (state.declarePoisoned name reports span) := by
  refine settles_bind placed.declareBinding_points fun _ bound => ?_
  exact ⟨placed.declareBinding here bound, points⟩

theorem Placed.bind (placed : state.Placed known) (here : span ∈ known) {container : String}
    {perspective : Option Perspective} :
    (state.settle (state.bind name container perspective span)).Placed known span := by
  apply placed.settle
  refine settles_bind placed.ensureFree_points fun _ _ => ?_
  cases checked : state.checkBind container perspective span with
  | ok found =>
      refine settles_bind placed.declareBinding_points fun _ bound => ?_
      exact settles_silent (placed.declareBinding here bound)
  | error diagnostic =>
      apply placed.declarePoisoned here
      intro other member
      rw [List.mem_singleton.mp member]
      exact placed.checkBind_points diagnostic checked

theorem Placed.tryBorrow (placed : state.Placed known) (here : span ∈ known) {extent : Extent}
    {mode : BorrowMode} {id : RecordId} {container : Container} {after : State}
    (tried : state.tryBorrow name extent mode span = .ok (some (id, container, after))) :
    after.Placed known := by
  simp only [State.tryBorrow, Check.bind_eq_ok] at tried
  obtain ⟨reached, -, tried⟩ := tried
  split at tried
  · simp at tried
  · simp only [Check.bind_eq_ok, Check.pure_eq_ok, Option.some.injEq] at tried
    obtain ⟨region, checked, lent, added, same⟩ := tried
    cases same
    exact placed.addBorrow (span_of_checkBorrow checked ▸ here) added

theorem Placed.borrow (placed : state.Placed known) (here : span ∈ known) {source : String}
    {extent : Extent} {mode : BorrowMode} :
    (state.settle (state.borrow name source extent mode span)).Placed known span := by
  apply placed.settle
  refine settles_bind placed.ensureFree_points fun _ _ => ?_
  cases tried : state.tryBorrow source extent mode span with
  | ok result =>
      cases result with
      | none => exact placed.declarePoisoned here fun _ member => absurd member List.not_mem_nil
      | some taken =>
          have lent : taken.2.2.Placed known := placed.tryBorrow here tried
          refine settles_bind lent.declareBinding_points fun _ bound => ?_
          have declared := lent.declareBinding here bound
          exact settles_silent (declared.setLedger (declared.ledger.modify _ _ fun _ => rfl))
  | error diagnostic =>
      apply placed.declarePoisoned here
      intro other member
      rw [List.mem_singleton.mp member]
      exact placed.tryBorrow_points diagnostic tried

theorem Placed.pushValue (placed : state.Placed known) {value : Value} {key : Option Value}
    {conversion : Option Conversion} :
    (state.settle (state.pushValue name value key conversion span)).Placed known span := by
  apply placed.withAccess
  intro access reached
  refine settles_bind reached.ensureWritable_points fun _ _ => ?_
  refine settles_bind Value.convertFor_points fun _ _ => ?_
  refine settles_bind Access.placement_points fun _ _ => ?_
  refine settles_bind (reached.checkInsertions_points placed.ledger) fun _ _ => ?_
  exact settles_silent (placed.insert ..)

theorem Placed.transfer (placed : state.Placed known) (here : span ∈ known) {source : String}
    {effect : Effect} {key : Option Value} {conversion : Option Conversion} :
    (state.settle (state.transfer name source effect key conversion span)).Placed known span := by
  apply placed.withAccess
  intro target targetPlaced
  refine settles_bind (points_inStep.mpr access_points) fun reached found => ?_
  rw [mapError_eq_ok] at found
  cases reached with
  | none => exact settles_silent placed
  | some origin =>
      refine settles_bind (placed.checkTransfer_points (placed.access found) targetPlaced)
        fun checked _ => ?_
      refine settles_bind placed.commitTransfer_points fun _ carriedOut => ?_
      exact settles_silent (placed.commitTransfer here carriedOut)

theorem Placed.pop (placed : state.Placed known) {extent : Option Extent} :
    (state.settle (state.pop name extent span)).Placed known span := by
  apply placed.withAccess
  intro access reached
  refine settles_bind (reached.checkPop_points placed.ledger) fun _ _ => ?_
  exact settles_silent (placed.remove ..)

theorem Placed.peek (placed : state.Placed known) {extent : Option Extent} :
    (state.settle (state.peek name extent span)).Placed known span := by
  apply placed.withAccess
  intro access reached
  refine settles_bind (reached.checkPeek_points placed.ledger) fun _ _ => ?_
  exact settles_silent placed

theorem Placed.setPerspective (placed : state.Placed known) {perspective : Perspective} :
    (state.settle (state.setPerspective name perspective span)).Placed known span := by
  apply placed.withAccess
  intro access _
  refine settles_bind (by simp [Stance.set]) fun _ _ => ?_
  exact settles_silent (placed.modifyBinding _ fun _ placed => { placed with })

theorem Placed.flip (placed : state.Placed known) :
    (state.settle (state.flip name span)).Placed known span := by
  apply placed.withAccess
  intro access _
  have points : Points known span (access.binding.stance.flip span) := by
    unfold Stance.flip
    split <;> simp
  refine settles_bind points fun _ _ => ?_
  exact settles_silent (placed.modifyBinding _ fun _ placed => { placed with })

theorem Placed.choose (placed : state.Placed known) {arms : List Perspective} {fallback : Bool} :
    (state.settle (state.choose name arms fallback span)).Placed known span := by
  apply placed.withAccess
  intro access _
  refine ⟨placed, ?_⟩
  intro diagnostic member
  dsimp only at member
  split at member
  · exact absurd member List.not_mem_nil
  · rw [List.mem_singleton.mp member]
    simp

theorem Placed.release (placed : state.Placed known) (here : span ∈ known) :
    (state.settle (state.release name span)).Placed known span := by
  apply placed.withAccess
  intro access reached
  refine settles_bind reached.container.ensureUsable_points fun _ _ => ?_
  dsimp only
  split
  · exact settles_bind (by simp) nofun
  · split
    · exact settles_bind (by simp) nofun
    · have released := placed.setLiveness here access.container.id (.released span) rfl
      exact settles_silent { released with }

theorem Placed.capture (placed : state.Placed known) (here : span ∈ known) {source : String} :
    (state.settle (state.capture name source span)).Placed known span := by
  apply placed.settle
  refine settles_bind lookupBinding_points fun target targetFound => ?_
  refine settles_bind lookupBinding_points fun origin _ => ?_
  split
  · exact settles_silent placed
  · refine settles_bind placed.checkCapture_points fun captured _ => ?_
    cases captured with
    | none => exact settles_silent placed
    | some container =>
        refine settles_bind checkCaptureTypes_points fun _ _ => ?_
        have pointed : (state.modifyBinding target.id fun _ =>
            { target with
              referent := origin.referent
              capturedAt := some span }).Placed known := by
          apply placed.modifyBinding
          intro _ _
          exact ⟨(placed.lookupBinding targetFound).span,
            fun _ captured => Option.some.inj captured ▸ here⟩
        dsimp only
        split
        · exact settles_silent pointed
        · exact settles_silent pointed

theorem Placed.spawn (placed : state.Placed known) (here : span ∈ known)
    (captures : List Capture) : (state.spawn captures span).Placed known span := by
  simp only [State.spawn]
  split
  · exact settles_silent (placed.moveAll here _)
  · refine ⟨placed, ?_⟩
    intro diagnostic member
    obtain ⟨result, listed, failed⟩ := List.mem_filterMap.mp member
    obtain ⟨capture, -, rfl⟩ := List.mem_map.mp listed
    split at failed
    · rename_i reported checked
      exact placed.checkTaskCapture_points diagnostic (Option.some.inj failed ▸ checked)
    · contradiction

end State

/-! ## Exits -/

/-- A closing that remembers known places only and whose findings stand where they should. -/
structure Closing.Placed (known : List Span) (span : Span) (closing : Closing) : Prop where
  state : closing.state.Placed known
  reports : ∀ diagnostic ∈ closing.reports, diagnostic.Points known span

namespace State

variable {state : State}

theorem Placed.unreported (placed : state.Placed known) :
    (Closing.mk state []).Placed known span :=
  ⟨placed, fun _ member => absurd member List.not_mem_nil⟩

theorem Placed.poisonAll (placed : state.Placed known) {bindings : List Binding}
    (subset : bindings ⊆ state.bindings) (cause : Binding → LifetimeBreach) (span : Span) :
    (state.poisonAll bindings cause span).Placed known span := by
  constructor
  · have poisoned : ∀ (poisoned : List Binding) {state : State}, state.Placed known →
        (poisoned.foldl (fun state binding => state.poison binding.id) state).Placed known := by
      intro poisoned
      induction poisoned with
      | nil => exact id
      | cons first rest ih =>
          intro state placed
          exact ih (placed.modifyBinding first.id fun _ placed => { placed with })
    exact poisoned bindings placed
  · intro diagnostic member
    obtain ⟨binding, listed, rfl⟩ := List.mem_map.mp member
    exact Diagnostic.points_about.mpr (placed.bindings binding (subset listed)).origin

/-- Bindings that are chosen among those of open scopes are bindings of the state. -/
theorem filter_liveBindings_subset (chosen : Binding → Bool) :
    state.liveBindings.filter chosen ⊆ state.bindings :=
  fun _ member => List.mem_of_mem_filter (List.mem_of_mem_filter member)

theorem Placed.destroy (placed : state.Placed known) (here : span ∈ known)
    (container : Container) : (state.destroy container span).Placed known span := by
  have marked := placed.setLiveness here container.id (.destroyed span) rfl
  exact marked.poisonAll (filter_liveBindings_subset _) _ span

theorem Placed.endContainer (placed : state.Placed known) (here : span ∈ known)
    (id : ContainerId) : (state.endContainer id span).Placed known span := by
  unfold State.endContainer
  split
  · exact placed.unreported
  · split
    · exact placed.unreported
    · split
      · exact placed.destroy here _
      · exact (placed.setLiveness here id (.forgotten span) rfl).unreported
      · exact Placed.unreported { placed with }

theorem Placed.endContainers (placed : state.Placed known) (here : span ∈ known)
    (ids : List ContainerId) : (state.endContainers ids span).Placed known span := by
  induction ids generalizing state with
  | nil => exact placed.unreported
  | cons id rest ih =>
      rw [endContainers_cons]
      have first := placed.endContainer here id
      have later := ih first.state
      exact ⟨later.state, List.forall_mem_append.mpr ⟨first.reports, later.reports⟩⟩

theorem Placed.closeScope (placed : state.Placed known) (here : span ∈ known) (scope : ScopeId) :
    (state.closeScope scope span).Placed known span := by
  have released := placed.setLedger (placed.ledger.releaseScope scope)
  have ended := released.endContainers here (state.scopes.declaredIn scope)
  have last := ended.state.poisonAll (filter_liveBindings_subset fun binding =>
    (state.ledger.releaseScope scope).1.any fun record => binding.referent = .view record.id)
    (fun binding => .staleView binding.name) span
  exact ⟨last.state, List.forall_mem_append.mpr ⟨ended.reports, last.reports⟩⟩

theorem Placed.exitScope? (placed : state.Placed known) (here : span ∈ known) {closing : Closing}
    (exits : state.exitScope? span = some closing) : closing.Placed known span := by
  obtain ⟨⟨scope, scopes⟩, -, rfl⟩ := Option.map_eq_some_iff.mp exits
  have left : { state with scopes }.Placed known := { placed with }
  exact left.closeScope here scope

theorem Placed.exitScope (placed : state.Placed known) (here : span ∈ known) :
    (state.exitScope span).Placed known span := by
  rw [State.exitScope]
  cases exits : state.exitScope? span with
  | some closing =>
      have left := placed.exitScope? here exits
      exact ⟨left.state, left.reports⟩
  | none =>
      refine ⟨placed, ?_⟩
      intro diagnostic member
      rw [List.mem_singleton.mp member]
      simp

theorem Placed.exitAll (placed : state.Placed known) (here : span ∈ known) (count : Nat) :
    (exitAll count state span).Placed known span := by
  induction count generalizing state with
  | zero => exact placed.unreported
  | succ count ih =>
      rw [State.exitAll]
      cases exits : state.exitScope? span with
      | none => exact placed.unreported
      | some closing =>
          have left := placed.exitScope? here exits
          have later := ih left.state
          exact ⟨later.state, List.forall_mem_append.mpr ⟨left.reports, later.reports⟩⟩

theorem Placed.closeRoot (placed : state.Placed known) (here : span ∈ known) :
    (state.closeRoot span).Placed known span := by
  rw [State.closeRoot]
  cases closes : state.scopes.closeRoot? with
  | none => exact placed.unreported
  | some closed =>
      have left : { state with scopes := closed.2 }.Placed known := { placed with }
      exact left.closeScope here closed.1

/-- What the end of a stream reports stands where the stream ends. -/
theorem Placed.closeAll_reports (placed : state.Placed known) (here : span ∈ known) :
    ∀ diagnostic ∈ (state.closeAll span).reports, diagnostic.Points known span := by
  have inner := placed.exitAll here state.scopes.path.length
  exact List.forall_mem_append.mpr ⟨inner.reports, (inner.state.closeRoot here).reports⟩

/-! ## Steps and runs -/

/-- Every operation remembers known places and its own only, and its findings stand where they
should. -/
theorem Placed.perform (placed : state.Placed known) (operation : Operation)
    (here : span ∈ known) : (state.perform operation span).Placed known span := by
  cases operation with
  | declare container element key mode => exact placed.declare here
  | bind binding container perspective => exact placed.bind here
  | push binding operand key conversion =>
      cases operand with
      | value literal => exact placed.pushValue
      | transfer source effect => exact placed.transfer here
  | pop binding extent => exact placed.pop
  | peek binding extent => exact placed.peek
  | borrow binding source extent mode => exact placed.borrow here
  | setPerspective binding perspective => exact placed.setPerspective
  | flip binding => exact placed.flip
  | capture target source => exact placed.capture here
  | release binding => exact placed.release here
  | choose binding arms fallback => exact placed.choose
  | enterScope kind => exact settles_silent { placed with }
  | exitScope => exact placed.exitScope here
  | spawn captures => exact placed.spawn here captures

end State

namespace Verification

/-- The next operation of a run, which remembers the places of its operations only. -/
theorem step_placed {nodes : List Node}
    (placed : (run {} nodes).state.Placed (nodes.map (·.span))) (node : Node) :
    ((run {} nodes).state.perform node.operation node.span).Placed
      ((nodes ++ [node]).map (·.span)) node.span := by
  rw [List.map_append]
  exact (placed.mono (List.subset_append_left ..)).perform node.operation (by simp)

theorem run_placed (nodes : List Node) : (run {} nodes).state.Placed (nodes.map (·.span)) := by
  induction nodes using List.reverseRecOn with
  | nil => exact State.initial_placed
  | append_singleton nodes node ih =>
      rw [run_concat]
      exact (step_placed ih node).state

/-- What the next operation of a stream adds to the findings stands at that operation, and what the
end of a stream adds stands at its last operation.  What these findings are related to stands at an
operation that has been performed, and conflicts and breaches of lifetimes are related to one. -/
theorem findings_point (nodes : List Node) :
    (∀ node, ∃ reported, ((run {} nodes).step node).diagnostics =
      (run {} nodes).diagnostics ++ reported ∧
        ∀ diagnostic ∈ reported, diagnostic.Points ((nodes ++ [node]).map (·.span)) node.span) ∧
    ∀ strict, ∃ reported, ((run {} nodes).finish strict).diagnostics =
      (run {} nodes).diagnostics ++ reported ∧
        ∀ diagnostic ∈ reported, ∃ last, nodes.getLast? = some last ∧
          diagnostic.Points (nodes.map (·.span)) last.span := by
  have placed := run_placed nodes
  refine ⟨?_, ?_⟩
  · intro node
    exact ⟨_, rfl, (step_placed placed node).reports⟩
  · intro strict
    refine ⟨_, rfl, ?_⟩
    cases final : nodes.getLast? with
    | none =>
        -- Before the first operation there is nothing to close.
        rw [List.getLast?_eq_none_iff.mp final]
        exact fun _ member => absurd member List.not_mem_nil
    | some last =>
        have here : last.span ∈ nodes.map (·.span) :=
          List.mem_map_of_mem (List.mem_of_getLast? final)
        intro diagnostic member
        rw [last_run, final] at member
        exact ⟨last, rfl, placed.closeAll_reports here diagnostic member⟩

end Verification

end Custody
