import Custody.Proofs.Checks

/-!
# Conflicts

The checks of the ledger look at the counted positions of a container, and look up the records that
its page lists only where these meet a footprint.  Whatever calls led to the ledger, they find the
same as a search of all records would: a conflict exactly when some record stands in the way, and
then the oldest one.
-/

namespace Custody.Ledger

variable {ledger : Ledger} {container : ContainerId} {footprint : SlotSet}
  {except : Option RecordId} {mutableOnly : Bool} {record : BorrowRecord}

/-! ## Records in the way -/

/-- A rival that covers some position of a footprint.  Where only mutable borrows count, it is
one. -/
structure Blocks (ledger : Ledger) (container : ContainerId) (footprint : SlotSet)
    (except : Option RecordId) (mutableOnly : Bool) (record : BorrowRecord) : Prop
    extends ledger.Rival container except record where
  mode : mutableOnly = true → record.mode.isMutable = true
  meets : record.slots.intersects footprint = true

/-- The record with the smallest number among those in the way. -/
structure BlocksFirst (ledger : Ledger) (container : ContainerId) (footprint : SlotSet)
    (except : Option RecordId) (mutableOnly : Bool) (record : BorrowRecord) : Prop
    extends ledger.Blocks container footprint except mutableOnly record where
  first : ∀ other, ledger.Blocks container footprint except mutableOnly other →
    record.id.index ≤ other.id.index

/-! ## The search -/

/-- The records in the way are those of the container that pass the test of the search. -/
theorem WellFormed.blocks_iff (wf : ledger.WellFormed) :
    ledger.Blocks container footprint except mutableOnly record ↔
    record ∈ ledger.recordsOn container ∧
      (some record.id ≠ except && record.ledgered && (!mutableOnly || record.mode.isMutable) &&
        record.slots.intersects footprint) = true := by
  simp only [wf.mem_recordsOn, Bool.and_eq_true, decide_eq_true_eq, Bool.or_eq_true,
    Bool.not_eq_true']
  constructor
  · intro blocks
    refine ⟨⟨blocks.member, blocks.onContainer⟩, ⟨⟨blocks.other, blocks.ledgered⟩, ?_⟩,
      blocks.meets⟩
    cases mutableOnly with
    | false => exact .inl rfl
    | true => exact .inr (blocks.mode rfl)
  · rintro ⟨⟨member, onContainer⟩, ⟨⟨other, ledgered⟩, mode⟩, meets⟩
    refine ⟨⟨member, onContainer, ledgered, other⟩, ?_, meets⟩
    intro only
    exact mode.resolve_left (by simp [only])

theorem WellFormed.firstConflict_eq_ok_iff (wf : ledger.WellFormed) :
    ledger.firstConflict container footprint except mutableOnly = .ok () ↔
      ∀ record, ¬ledger.Blocks container footprint except mutableOnly record := by
  rw [wf.firstConflict_eq_ok]
  constructor
  · intro clear record blocks
    obtain ⟨position, inSlots, inFootprint⟩ := SlotSet.intersects_iff.mp blocks.meets
    exact clear record blocks.toRival blocks.mode position inSlots inFootprint
  · intro none record rival mode position inSlots inFootprint
    exact none record ⟨rival, mode, SlotSet.intersects_iff.mpr ⟨position, inSlots, inFootprint⟩⟩

/-- What the search yields is in the way, and every other record in the way comes after it. -/
theorem WellFormed.blocksFirst_of_firstConflict (wf : ledger.WellFormed)
    (found : ledger.firstConflict container footprint except mutableOnly = .error record) :
    ledger.BlocksFirst container footprint except mutableOnly record := by
  simp only [firstConflict] at found
  split at found
  · rename_i there search
    simp only [Except.error.injEq] at found
    subst found
    obtain ⟨passes, before, behind, listed, skipped⟩ := List.find?_eq_some_iff_append.mp search
    refine ⟨wf.blocks_iff.mpr ⟨List.mem_of_find?_eq_some search, passes⟩, ?_⟩
    intro other blocks
    obtain ⟨member, otherPasses⟩ := wf.blocks_iff.mp blocks
    have ascending : (ledger.recordsOn container).Pairwise fun earlier later =>
        earlier.id.index < later.id.index := by
      rw [wf.recordsOn_eq_listing]
      exact wf.ascending.filter _
    rw [listed, List.pairwise_append, List.pairwise_cons] at ascending
    rw [listed, List.mem_append, List.mem_cons] at member
    rcases member with earlier | rfl | later
    · -- The search has passed over all records before the one it yields.
      have failed := skipped other earlier
      rw [otherPasses] at failed
      contradiction
    · exact Nat.le_refl _
    · exact Nat.le_of_lt (ascending.2.1.1 other later)
  · contradiction

/-- The search yields something exactly when a record is in the way. -/
theorem WellFormed.exists_firstConflict_iff (wf : ledger.WellFormed) :
    (∃ conflict, ledger.firstConflict container footprint except mutableOnly = .error conflict) ↔
      ∃ record, ledger.Blocks container footprint except mutableOnly record := by
  cases search : ledger.firstConflict container footprint except mutableOnly with
  | ok _ =>
      have none := wf.firstConflict_eq_ok_iff.mp search
      simp [none]
  | error conflict =>
      have blocked : ∃ record, ledger.Blocks container footprint except mutableOnly record := by
        by_contra none
        rw [wf.firstConflict_eq_ok_iff.mpr (not_exists.mp none)] at search
        contradiction
      simp [blocked]

/-! ## The counted positions -/

/-- Where the borrowed positions do not meet a footprint, a search finds nothing either. -/
theorem WellFormed.checkWrite_eq_firstConflict (wf : ledger.WellFormed) :
    ledger.checkWrite container footprint except =
      ledger.firstConflict container footprint except false := by
  unfold checkWrite
  split
  · rfl
  · rename_i disjoint
    have passed : ledger.checkWrite container footprint except = .ok () := if_neg disjoint
    symm
    rw [wf.firstConflict_eq_ok]
    intro record rival _
    exact wf.checkWrite_eq_ok.mp passed record rival

/-- Where the mutably borrowed positions do not meet a footprint, a search for mutable borrows
finds nothing either. -/
theorem WellFormed.checkRead_eq_firstConflict (wf : ledger.WellFormed) :
    ledger.checkRead container footprint except =
      ledger.firstConflict container footprint except true := by
  unfold checkRead
  split
  · rfl
  · rename_i disjoint
    have passed : ledger.checkRead container footprint except = .ok () := if_neg disjoint
    symm
    rw [wf.firstConflict_eq_ok]
    intro record rival mode
    exact wf.checkRead_eq_ok.mp passed record rival (mode rfl)

/-! ## Calls -/

/-- A call that may change a ledger. -/
inductive Call
  | borrow (region : Region) (except : Option RecordId)
  | recordUnchecked (region : Region)
  | setHolder (id : RecordId) (holder : BindingId)
  | rebase (id : RecordId) (slots : SlotSet)
  | release (id : RecordId)
  | releaseScope (scope : ScopeId)
  deriving DecidableEq, Repr

/-- The ledger after a call.  A borrow that meets a conflict leaves it as it was. -/
def after (ledger : Ledger) : Call → Ledger
  | .borrow region except =>
    match ledger.borrow region except with
    | .ok (_, borrowed) => borrowed
    | .error _ => ledger
  | .recordUnchecked region => (ledger.recordUnchecked region).2
  | .setHolder id holder => ledger.setHolder id holder
  | .rebase id slots => ledger.rebase id slots
  | .release id => (ledger.release id).2
  | .releaseScope scope => (ledger.releaseScope scope).2

/-- The ledger that calls, made one after another, lead to. -/
def ofCalls (calls : List Call) : Ledger :=
  calls.foldl after {}

/-- No call lets the counts and the records drift apart. -/
theorem after_wellFormed (wf : ledger.WellFormed) (call : Call) :
    (ledger.after call).WellFormed := by
  cases call with
  | borrow region except =>
      simp only [after]
      split
      · rename_i id borrowed accepted
        have inserted : borrowed = (ledger.insert region true).2 :=
          congrArg Prod.snd (borrow_eq_ok accepted).1
        rw [inserted]
        exact insert_wellFormed wf region true
      · exact wf
  | recordUnchecked region => exact insert_wellFormed wf region false
  | setHolder id holder => exact setHolder_wellFormed wf id holder
  | rebase id slots => exact rebase_wellFormed wf id slots
  | release id => exact release_wellFormed wf id
  | releaseScope scope => exact releaseScope_wellFormed wf scope

theorem ofCalls_wellFormed (calls : List Call) : (ofCalls calls).WellFormed := by
  unfold ofCalls
  generalize start : ({} : Ledger) = ledger
  have wf : ledger.WellFormed := start ▸ empty_wellFormed
  clear start
  induction calls generalizing ledger with
  | nil => exact wf
  | cons call rest ih => exact ih (ledger.after call) (after_wellFormed wf call)

/-- After any calls, the page of a container lists exactly the active records on it.  A write is
refused exactly when some checked record other than the excepted one covers a position that it
touches, a read exactly when some mutable such record does, and the conflict that is reported is
always the one with the smallest number. -/
theorem checks_agree_with_records (calls : List Call) (container : ContainerId)
    (footprint : SlotSet) (except : Option RecordId) :
    (ofCalls calls).recordsOn container = (ofCalls calls).listing container ∧
    ((∃ conflict, (ofCalls calls).checkWrite container footprint except = .error conflict) ↔
      ∃ record, (ofCalls calls).Blocks container footprint except false record) ∧
    ((∃ conflict, (ofCalls calls).checkRead container footprint except = .error conflict) ↔
      ∃ record, (ofCalls calls).Blocks container footprint except true record) ∧
    (∀ conflict, (ofCalls calls).checkWrite container footprint except = .error conflict →
      (ofCalls calls).BlocksFirst container footprint except false conflict) ∧
    ∀ conflict, (ofCalls calls).checkRead container footprint except = .error conflict →
      (ofCalls calls).BlocksFirst container footprint except true conflict := by
  have wf := ofCalls_wellFormed calls
  simp only [wf.checkWrite_eq_firstConflict, wf.checkRead_eq_firstConflict]
  exact ⟨wf.recordsOn_eq_listing container, wf.exists_firstConflict_iff,
    wf.exists_firstConflict_iff, fun _ => wf.blocksFirst_of_firstConflict,
    fun _ => wf.blocksFirst_of_firstConflict⟩

end Custody.Ledger
