import Custody.Proofs.Transfers

/-!
# What rejections are about

No check on a sound state complains that a container was destroyed, since nothing that a name
reaches ever is, and none complains in the form of a warning.  There is one lemma for each check;
those that use no container hold of any state.
-/

namespace Custody

/-- Whether something is said to be destroyed, or to be seen through a borrow that has ended. -/
@[simp] def Violation.isStale : Violation → Bool
  | .ownership (.destroyed _) => true
  | .lifetime (.staleView _) => true
  | _ => false

/-- Whether a check on a sound state may come up with a violation: neither is anything said to be
stale, nor is it a mere warning. -/
@[simp] def Violation.isOrdinary : Violation → Bool
  | .ownership (.destroyed _) => false
  | .lifetime (.staleView _) => false
  | .nonExhaustive .. => false
  | _ => true

namespace Diagnostic

/-- Whether a finding says that something is destroyed, or seen through a borrow that has ended. -/
def isStale (diagnostic : Diagnostic) : Bool :=
  diagnostic.violation.isStale

/-- Whether a check on a sound state may come up with a finding. -/
def isOrdinary (diagnostic : Diagnostic) : Bool :=
  diagnostic.violation.isOrdinary

@[simp] theorem isOrdinary_plain (violation : Violation) (span : Span) :
    (plain violation span).isOrdinary = violation.isOrdinary := rfl

@[simp] theorem isOrdinary_about (violation : Violation) (span earlier : Span)
    (relation : Relation) :
    (about violation span earlier relation).isOrdinary = violation.isOrdinary := rfl

@[simp] theorem isOrdinary_inStep (step : TransferStep) (diagnostic : Diagnostic) :
    (diagnostic.inStep step).isOrdinary = diagnostic.isOrdinary := rfl

theorem isStale_of_isOrdinary {diagnostic : Diagnostic} (ordinary : diagnostic.isOrdinary = true) :
    diagnostic.isStale = false := by
  simp only [isOrdinary] at ordinary
  simp only [isStale, Violation.isStale]
  split <;> simp_all

theorem isWarning_of_isOrdinary {diagnostic : Diagnostic}
    (ordinary : diagnostic.isOrdinary = true) : diagnostic.isWarning = false := by
  rw [isOrdinary] at ordinary
  rw [isWarning, kind]
  cases violation : diagnostic.violation with
  | nonExhaustive => simp [violation] at ordinary
  | _ => rfl

end Diagnostic

@[simp] theorem BorrowRecord.isOrdinary_conflict (record : BorrowRecord) (attempt : Attempt)
    (span : Span) : (record.conflict attempt span).isOrdinary = true := rfl

namespace Check

variable {α β : Type}

/-- A check that complains about ordinary things only. -/
def Ordinary (check : Except Diagnostic α) : Prop :=
  ∀ diagnostic, check = .error diagnostic → diagnostic.isOrdinary = true

@[simp] theorem ordinary_ok (value : α) : Ordinary (.ok value) := by
  intro diagnostic failed
  contradiction

@[simp] theorem ordinary_pure (value : α) : Ordinary (pure value) := ordinary_ok value

@[simp] theorem ordinary_error {diagnostic : Diagnostic} :
    Ordinary (.error diagnostic : Except Diagnostic α) ↔ diagnostic.isOrdinary = true := by
  simp [Ordinary]

@[simp] theorem ordinary_throw {diagnostic : Diagnostic} :
    Ordinary (throw diagnostic : Except Diagnostic α) ↔ diagnostic.isOrdinary = true :=
  ordinary_error

@[simp] theorem ordinary_bind {check : Except Diagnostic α} {next : α → Except Diagnostic β} :
    Ordinary (check >>= next) ↔
      Ordinary check ∧ ∀ value, check = .ok value → Ordinary (next value) := by
  cases check <;> simp [Ordinary, bind, Except.bind]

@[simp] theorem ordinary_map {check : Except Diagnostic α} {change : α → β} :
    Ordinary (change <$> check) ↔ Ordinary check := by
  cases check <;> simp [Ordinary, Functor.map, Except.map]

@[simp] theorem ordinary_ite {condition : Prop} [Decidable condition]
    {first second : Except Diagnostic α} :
    Ordinary (if condition then first else second) ↔
      (condition → Ordinary first) ∧ (¬condition → Ordinary second) := by
  split <;> simp_all

theorem ordinary_mapError {φ : Type} {check : Except φ α} {rename : φ → Diagnostic}
    (fresh : ∀ fault, check = .error fault → (rename fault).isOrdinary = true) :
    Ordinary (check.mapError rename) := by
  cases check with
  | ok value => exact ordinary_ok value
  | error fault => exact ordinary_error.mpr (fresh fault rfl)

@[simp] theorem ordinary_inStep {check : Except Diagnostic α} {step : TransferStep} :
    Ordinary (check.mapError (·.inStep step)) ↔ Ordinary check := by
  cases check <;> simp [Ordinary, Except.mapError]

@[simp] theorem ordinary_mapM {check : α → Except Diagnostic β} {members : List α}
    (each : ∀ member, Ordinary (check member)) : Ordinary (members.mapM check) := by
  induction members with
  | nil => simp
  | cons first rest ih => simp [List.mapM_cons, each, ih]

end Check

open Check

/-! ## Names and containers -/

namespace State

variable {state : State} {name : String} {span : Span}

@[simp] theorem lookupBinding_ordinary : Ordinary (state.lookupBinding name span) := by
  unfold lookupBinding
  split <;> simp

@[simp] theorem lookupContainer_ordinary : Ordinary (state.lookupContainer name span) := by
  unfold lookupContainer
  split <;> simp

@[simp] theorem ensureFree_ordinary : Ordinary (state.ensureFree name span) := by
  unfold ensureFree
  split <;> simp

@[simp] theorem register_ordinary {element : Element} {key : Option Element} {mode : Mode} :
    Ordinary (state.register name element key mode span) := by
  unfold register
  simp only
  split
  · split <;> simp
  · simp

@[simp] theorem declareBinding_ordinary {referent : Referent} {perspective : Perspective} :
    Ordinary (state.declareBinding name referent perspective span) := by
  simp [declareBinding]

@[simp] theorem access_ordinary : Ordinary (state.access name span) := by
  simp [State.access]

/-- What a name reaches was not destroyed. -/
theorem Reaches.undestroyed {access : Access} (sound : state.Sound)
    (reaches : state.Reaches access) : access.container.isDestroyed = false := by
  cases viewed : access.view with
  | none =>
      have grounds := sound.grounded reaches.binding reaches.opened
      rw [reaches.direct viewed] at grounds
      obtain ⟨container, found, live⟩ := grounds
      rw [Option.some.inj (reaches.container.symm.trans found)]
      exact live
  | some record =>
      obtain ⟨-, member, onContainer⟩ := reaches.view viewed
      exact (sound.backs member (onContainer ▸ reaches.container)).undestroyed

end State

theorem Container.ensureUsable_ordinary {container : Container} {span : Span}
    (live : container.isDestroyed = false) : Ordinary (container.ensureUsable span) := by
  unfold ensureUsable
  split
  · simp
  · split <;> simp_all [Container.isDestroyed]

@[simp] theorem Container.positionOfKey_ordinary {container : Container} {keyType : Element}
    {key : Value} {span : Span} : Ordinary (container.positionOfKey keyType key span) := by
  unfold positionOfKey
  split
  · simp
  · split <;> simp

@[simp] theorem Container.resolve_ordinary {container : Container} {extent : Extent}
    {span : Span} : Ordinary (container.resolve extent span) := by
  unfold resolve
  split
  · simp
  · split <;> simp

@[simp] theorem Value.convertFor_ordinary {value : Value} {conversion : Option Conversion}
    {target : Element} {span : Span} :
    Ordinary (value.convertFor conversion target span) := by
  unfold convertFor
  split
  · simp
  · exact ordinary_mapError fun _ _ => rfl

/-! ## Checks on an access -/

namespace Access

variable {access source target : Access} {ledger : Ledger} {span : Span}

theorem ensureWritable_ordinary {action : WriteAction}
    (live : access.container.isDestroyed = false) :
    Ordinary (access.ensureWritable action span) := by
  simp only [ensureWritable, ordinary_bind]
  refine ⟨Container.ensureUsable_ordinary live, fun _ _ => ?_⟩
  split
  · simp
  · split <;> simp

@[simp] theorem ensureUnborrowed_ordinary {footprint : SlotSet} {attempt : Attempt} :
    Ordinary (access.ensureUnborrowed ledger footprint attempt span) := by
  unfold ensureUnborrowed
  split
  · exact ordinary_mapError fun _ _ => rfl
  · simp

@[simp] theorem ensureReadable_ordinary {footprint : SlotSet} {attempt : Attempt} :
    Ordinary (access.ensureReadable ledger footprint attempt span) := by
  unfold ensureReadable
  split
  · exact ordinary_mapError fun _ _ => rfl
  · simp

@[simp] theorem removal_ordinary {extent : Option Extent} :
    Ordinary (access.removal extent span) := by
  unfold removal
  split <;> simp

theorem checkPop_ordinary {extent : Option Extent}
    (live : access.container.isDestroyed = false) :
    Ordinary (access.checkPop ledger extent span) := by
  simp only [checkPop, ordinary_bind]
  refine ⟨ensureWritable_ordinary live, fun _ _ => ⟨removal_ordinary, fun _ _ => ?_⟩⟩
  split <;> simp

@[simp] theorem reading_ordinary {extent : Option Extent} :
    Ordinary (access.reading extent span) := by
  unfold reading
  split <;> simp

theorem checkPeek_ordinary {extent : Option Extent}
    (live : access.container.isDestroyed = false) :
    Ordinary (access.checkPeek ledger extent span) := by
  simp only [checkPeek, ordinary_bind]
  refine ⟨Container.ensureUsable_ordinary live, fun _ _ => ⟨reading_ordinary, fun _ _ => ?_⟩⟩
  split <;> simp

@[simp] theorem placement_ordinary {key : Option Value} :
    Ordinary (access.placement key span) := by
  simp only [Access.placement]
  split
  · simp
  · split <;> simp
  · simp
  · simp
  · simp

@[simp] theorem checkInsertions_ordinary {placements : List Placement} :
    Ordinary (access.checkInsertions ledger placements span) := by
  simp only [checkInsertions]
  split
  · split <;> simp
  · exact ensureUnborrowed_ordinary

@[simp] theorem ensureHeadInView_ordinary {head : Nat} :
    Ordinary (access.ensureHeadInView head span) := by
  unfold ensureHeadInView
  split <;> simp

theorem checkMove_ordinary {head : Nat} (live : source.container.isDestroyed = false) :
    Ordinary (source.checkMove ledger head span) := by
  simp [checkMove, ensureWritable_ordinary live]

@[simp] theorem checkTake_ordinary : Ordinary (source.checkTake ledger span) := by
  simp only [checkTake]
  split
  · simp
  · split
    · simp
    · split <;> simp

@[simp] theorem checkReference_ordinary {effect : Effect} {mode : BorrowMode} {head : Nat} :
    Ordinary (source.checkReference ledger effect mode head span) := by
  simp only [checkReference]
  split
  · simp
  · split <;> simp

theorem checkSource_ordinary {effect : Effect} (live : source.container.isDestroyed = false) :
    Ordinary (source.checkSource target ledger effect span) := by
  simp only [checkSource, ordinary_bind]
  refine ⟨Container.ensureUsable_ordinary live, fun _ _ => ?_⟩
  cases effect <;> simp [checkMove_ordinary live]

@[simp] theorem convertSlot_ordinary {kind : Option Conversion} {found wanted : Element}
    {slot : Slot} : Ordinary (convertSlot kind found wanted span slot) := by
  unfold convertSlot
  split
  · simp only [ordinary_bind, ordinary_pure, implies_true, and_true]
    exact ordinary_mapError fun _ _ => rfl
  · simp

@[simp] theorem convertSlots_ordinary {effect : Effect} {conversion : Option Conversion}
    {head : Nat} : Ordinary (source.convertSlots target effect conversion head span) := by
  cases conversion with
  | none => simp [convertSlots]
  | some kind =>
      simp only [convertSlots]
      split
      · simp
      · split <;> simp

@[simp] theorem placeTaken_ordinary {slot : Slot} :
    Ordinary (placeTaken source target span slot) := by
  unfold placeTaken
  split <;> simp

@[simp] theorem takePlacements_ordinary {slots : List Slot} :
    Ordinary (takePlacements source target slots span) := by
  simp only [takePlacements]
  split <;> simp

theorem checkTarget_ordinary {effect : Effect} {key : Option Value} {slots : List Slot}
    (live : target.container.isDestroyed = false) :
    Ordinary (target.checkTarget source ledger effect key slots span) := by
  simp only [checkTarget, ordinary_bind]
  refine ⟨ensureWritable_ordinary live, fun _ _ => ?_⟩
  split
  · split <;> simp
  · simp

end Access

namespace State

variable {state : State} {name : String} {span : Span}

theorem checkTransfer_ordinary {source target : Access} {effect : Effect} {key : Option Value}
    {conversion : Option Conversion} (sourceLive : source.container.isDestroyed = false)
    (targetLive : target.container.isDestroyed = false) :
    Ordinary (state.checkTransfer target source effect key conversion span) := by
  simp [checkTransfer, Access.checkSource_ordinary sourceLive,
    Access.checkTarget_ordinary targetLive]

@[simp] theorem addBorrow_ordinary {container : Container} {region : Region}
    {except : Option RecordId} {attempt : Attempt} :
    Ordinary (state.addBorrow container region except attempt span) := by
  unfold addBorrow
  split
  · simp only [ordinary_bind, ordinary_pure, implies_true, and_true]
    exact ordinary_mapError fun _ _ => rfl
  · simp

@[simp] theorem commitTransfer_ordinary {transfer : Transfer} :
    Ordinary (state.commitTransfer transfer span) := by
  unfold commitTransfer
  split
  · simp [commitReference]
  · simp

theorem checkBorrow_ordinary {access : Access} {extent : Extent} {mode : BorrowMode}
    (live : access.container.isDestroyed = false) :
    Ordinary (state.checkBorrow access extent mode span) := by
  simp only [checkBorrow, ordinary_bind]
  refine ⟨Container.ensureUsable_ordinary live, fun _ _ => ?_⟩
  split
  · simp
  · simp only [ordinary_bind, Container.resolve_ordinary, true_and]
    intro slots _
    split <;> simp

theorem tryBorrow_ordinary (sound : state.Sound) {extent : Extent} {mode : BorrowMode} :
    Ordinary (state.tryBorrow name extent mode span) := by
  simp only [tryBorrow, ordinary_bind, access_ordinary, true_and]
  intro reached found
  split
  · simp
  · rename_i access
    have live := (access_eq_ok sound found).1.undestroyed sound
    simp [checkBorrow_ordinary live]

theorem checkBind_ordinary (sound : state.Sound) {perspective : Option Perspective} :
    Ordinary (state.checkBind name perspective span) := by
  simp only [checkBind, ordinary_bind, lookupContainer_ordinary, true_and]
  intro container lookup
  obtain ⟨found, opened⟩ := lookupContainer_eq_ok sound lookup
  have live : container.isDestroyed = false := by
    by_contra destroyed
    exact sound.destroyed found (by simpa using destroyed) opened
  refine ⟨Container.ensureUsable_ordinary live, fun _ _ => ?_⟩
  split <;> simp

theorem checkCapture_ordinary (sound : state.Sound) {target source : Binding}
    (found : state.lookupBinding name span = .ok source) :
    Ordinary (state.checkCapture target source span) := by
  unfold checkCapture
  split
  · simp
  · split
    · simp
    · split <;> simp
  · rename_i id referent
    split
    · simp
    · rename_i container lookup
      obtain ⟨stored, opened⟩ := lookupBinding_eq_ok sound found
      have grounds := sound.grounded stored opened
      rw [referent] at grounds
      obtain ⟨there, thereFound, live⟩ := grounds
      rw [Option.some.inj (thereFound.symm.trans lookup)] at live
      simp [Container.ensureUsable_ordinary live]

theorem checkCaptureTypes_ordinary {target source : Binding} {container : Container} :
    Ordinary (state.checkCaptureTypes target source container span) := by
  unfold checkCaptureTypes
  split <;> simp

theorem checkTaskCapture_ordinary (sound : state.Sound) {capture : Capture} :
    Ordinary (state.checkTaskCapture capture span) := by
  simp only [checkTaskCapture, ordinary_bind, lookupBinding_ordinary, true_and]
  intro binding lookup
  split
  · simp
  · split <;> simp
  · rename_i container reached
    obtain ⟨stored, opened⟩ := lookupBinding_eq_ok sound lookup
    obtain ⟨-, reaches⟩ := accessOf?_eq_some sound stored opened reached
    simp only [ordinary_bind]
    refine ⟨Container.ensureUsable_ordinary (reaches.undestroyed sound), fun _ _ => ?_⟩
    split
    · split <;> simp
    · split
      · simp
      · split
        · simp
        · split <;> simp

end State

end Custody
