import Custody.Proofs.Moves

/-!
# Independence

An operation that pushes a literal, pops, peeks or sets the perspective of a binding looks at what
the binding reaches and at the borrows of that container, and changes nothing else.  So two such
operations whose bindings reach different containers do the same in either order.
-/

namespace Custody

/-- Two keys may be entered in either order if one of them is there already. -/
theorem Table.insert_comm {κ α : Type} [DecidableEq κ] {table : Table κ α} {first second : κ}
    (different : first ≠ second) (present : table.get? first ≠ none) (one other : α) :
    (table.insert first one).insert second other =
      (table.insert second other).insert first one := by
  induction table with
  | nil => exact (present rfl).elim
  | cons entry rest ih =>
      by_cases isFirst : first = entry.1
      · have notSecond : second ≠ entry.1 := fun same => different (isFirst.trans same.symm)
        simp [Table.insert, isFirst, notSecond]
      · by_cases isSecond : second = entry.1
        · simp [Table.insert, isSecond, isFirst]
        · rw [Table.get?, if_neg isFirst] at present
          simp [Table.insert, isFirst, isSecond, ih present]

/-! ## Borrows of different containers -/

namespace Ledger

variable {ledger : Ledger} {record : BorrowRecord} {container : ContainerId} {slots : SlotSet}

/-- A borrow of another container does not show among a container's borrows. -/
theorem listing_rebase_of_ne (wf : ledger.WellFormed) (member : record ∈ ledger.records)
    (apart : record.container ≠ container) :
    (ledger.rebase record.id slots).listing container = ledger.listing container := by
  have moved : (ledger.rebase record.id slots).listing container =
      (ledger.modify record.id fun record => { record with slots }).listing container := by
    rw [listing, records_rebase]
    rfl
  rw [moved]
  exact wf.listing_modify_of_ne member (Ne.symm apart) fun _ => rfl

theorem get?_rebase_of_ne {id other : RecordId} (different : other ≠ id) :
    (ledger.rebase id slots).get? other = ledger.get? other := by
  have sameId : ∀ record : BorrowRecord,
      (if record.id = id then { record with slots } else record).id = record.id := by
    intro record
    split <;> rfl
  rw [get?, records_rebase, List.find?_map]
  simp only [Function.comp_def, sameId]
  change (ledger.get? other).map _ = _
  cases found : ledger.get? other with
  | none => rfl
  | some record =>
      rw [Option.map_some, if_neg]
      intro same
      exact different ((mem_of_get? found).2.symm.trans same)

/-- A borrow that is rebased changes the page of its container. -/
theorem pages_rebase (wf : ledger.WellFormed) (member : record ∈ ledger.records) :
    (ledger.rebase record.id slots).pages = ledger.pages.insert record.container
      ((ledger.rebase record.id slots).page record.container) := by
  obtain ⟨page, found⟩ := Option.ne_none_iff_exists'.mp (wf.page_ne_none member)
  have there : (ledger.modify record.id fun record => { record with slots }).pages.get?
      record.container = some page := found
  simp only [rebase, wf.get?_eq_some_iff.mpr ⟨member, rfl⟩, recount, modifyPage, there,
    page_setPage, if_true]
  rfl

/-- A borrow keeps its place when one of another container is rebased. -/
theorem mem_records_rebase_of_ne {other : BorrowRecord} (member : other ∈ ledger.records)
    (different : other.id ≠ record.id) : other ∈ (ledger.rebase record.id slots).records := by
  rw [records_rebase]
  exact List.mem_map.mpr ⟨other, member, if_neg different⟩

/-- Borrows of different containers may be rebased in either order. -/
theorem rebase_comm (wf : ledger.WellFormed) {first second : BorrowRecord}
    (firstMember : first ∈ ledger.records) (secondMember : second ∈ ledger.records)
    (apart : first.container ≠ second.container) (one other : SlotSet) :
    (ledger.rebase first.id one).rebase second.id other =
      (ledger.rebase second.id other).rebase first.id one := by
  have different : first.id ≠ second.id := fun same =>
    apart (congrArg (·.container) (wf.eq_of_id_eq firstMember secondMember same))
  have records : ((ledger.rebase first.id one).rebase second.id other).records =
      ((ledger.rebase second.id other).rebase first.id one).records := by
    simp only [records_rebase, List.map_map]
    apply List.map_congr_left
    intro record _
    simp only [Function.comp_apply]
    by_cases isFirst : record.id = first.id
    · simp [isFirst, different]
    · by_cases isSecond : record.id = second.id <;> simp [isFirst, isSecond, Ne.symm different]
  have firstWf := rebase_wellFormed wf first.id one
  have secondWf := rebase_wellFormed wf second.id other
  have secondKept : second ∈ (ledger.rebase first.id one).records :=
    mem_records_rebase_of_ne secondMember (Ne.symm different)
  have firstKept : first ∈ (ledger.rebase second.id other).records :=
    mem_records_rebase_of_ne firstMember different
  -- The page of each container is made from the same borrows in both orders.
  have bothWf := rebase_wellFormed firstWf second.id other
  have swappedWf := rebase_wellFormed secondWf first.id one
  have onFirst : ((ledger.rebase second.id other).rebase first.id one).page first.container =
      (ledger.rebase first.id one).page first.container := by
    rw [swappedWf.page_eq, firstWf.page_eq, ← listing_rebase_of_ne firstWf secondKept
      (Ne.symm apart), listing, ← records, listing]
  have onSecond : ((ledger.rebase first.id one).rebase second.id other).page second.container =
      (ledger.rebase second.id other).page second.container := by
    rw [bothWf.page_eq, secondWf.page_eq, ← listing_rebase_of_ne secondWf firstKept apart,
      listing, records, listing]
  have pages : ((ledger.rebase first.id one).rebase second.id other).pages =
      ((ledger.rebase second.id other).rebase first.id one).pages := by
    rw [pages_rebase firstWf secondKept, pages_rebase secondWf firstKept, onFirst, onSecond,
      pages_rebase wf firstMember, pages_rebase wf secondMember]
    exact Table.insert_comm apart (wf.page_ne_none firstMember) _ _
  have nextId : ((ledger.rebase first.id one).rebase second.id other).nextId =
      ((ledger.rebase second.id other).rebase first.id one).nextId := by
    simp only [nextId_rebase]
  exact (Ledger.mk.injEq ..).mpr ⟨records, pages, nextId⟩

end Ledger

/-! ## What an operation leaves behind -/

/-- What an operation leaves behind through an access: a stance of the binding, a content of the
container and positions of the borrow that it acts through, each unless it stays as it is. -/
structure Patch where
  stance : Option Stance := none
  content : Option Content := none
  slots : Option SlotSet := none

/-- The ledger after the borrow of an access got new positions. -/
def Ledger.patch (ledger : Ledger) (access : Access) (slots : Option SlotSet) : Ledger :=
  match access.view, slots with
  | some record, some slots => ledger.rebase record.id slots
  | _, _ => ledger

theorem Ledger.patch_none (ledger : Ledger) (access : Access) :
    ledger.patch access none = ledger := by
  unfold patch
  cases access.view <;> rfl

/-- A patch leaves every ledger as it is, or rebases the borrow of its access. -/
theorem Ledger.patch_cases (access : Access) (slots : Option SlotSet) :
    (∀ ledger : Ledger, ledger.patch access slots = ledger) ∨
      ∃ record moved, access.view = some record ∧
        ∀ ledger : Ledger, ledger.patch access slots = ledger.rebase record.id moved := by
  unfold patch
  cases access.view with
  | none => exact .inl fun _ => rfl
  | some record =>
      cases slots with
      | none => exact .inl fun _ => rfl
      | some moved => exact .inr ⟨record, moved, rfl, fun _ => rfl⟩

namespace State

variable {state other : State} {access left right : Access} {name : String} {span : Span}

/-- The state after an operation through an access. -/
def patch (state : State) (access : Access) (patch : Patch) : State :=
  let bound := state.modifyBinding access.binding.id fun binding =>
    { binding with stance := patch.stance.getD binding.stance }
  let stored := bound.modifyContainer access.container.id fun container =>
    { container with content := patch.content.getD container.content }
  { stored with ledger := state.ledger.patch access patch.slots }

theorem patch_nothing : state.patch access {} = state := by
  have containers : (state.patch access {}).containers = state.containers := List.modify_id ..
  have bindings : (state.patch access {}).bindings = state.bindings := List.modify_id ..
  have ledger : (state.patch access {}).ledger = state.ledger := Ledger.patch_none ..
  exact (State.mk.injEq ..).mpr ⟨rfl, containers, bindings, ledger, rfl⟩

theorem patch_stance (stance : Stance) :
    state.patch access { stance := some stance } =
      state.modifyBinding access.binding.id fun binding => { binding with stance } := by
  have containers : (state.patch access { stance := some stance }).containers =
      state.containers := List.modify_id ..
  have ledger : (state.patch access { stance := some stance }).ledger = state.ledger :=
    Ledger.patch_none ..
  exact (State.mk.injEq ..).mpr ⟨rfl, containers, rfl, ledger, rfl⟩

theorem patch_content (content : Content) (slots : Option SlotSet) :
    state.patch access { content := some content, slots } =
      { state.setContent access.container.id content with
        ledger := state.ledger.patch access slots } := by
  have bindings : (state.patch access { content := some content, slots }).bindings =
      state.bindings := List.modify_id ..
  exact (State.mk.injEq ..).mpr ⟨rfl, rfl, bindings, rfl, rfl⟩

theorem binding?_patch (patch : Patch) (id : BindingId) :
    (state.patch access patch).binding? id =
      if id = access.binding.id then (state.binding? id).map fun binding =>
        { binding with stance := patch.stance.getD binding.stance }
      else state.binding? id :=
  binding?_modifyBinding state access.binding.id id _

theorem container?_patch (patch : Patch) (id : ContainerId) :
    (state.patch access patch).container? id =
      if id = access.container.id then (state.container? id).map fun container =>
        { container with content := patch.content.getD container.content }
      else state.container? id :=
  container?_modifyContainer state access.container.id id _

/-! ## What an operation looks at -/

/-- Two states that agree on all that an operation through an access looks at. -/
structure Agrees (access : Access) (state other : State) : Prop where
  scopes : other.scopes = state.scopes
  bound : other.binding? access.binding.id = state.binding? access.binding.id
  contained : other.container? access.container.id = state.container? access.container.id
  borrowed : other.ledger.recordsOn access.container.id =
    state.ledger.recordsOn access.container.id
  paged : other.ledger.page access.container.id = state.ledger.page access.container.id
  viewed : ∀ record, access.view = some record →
    other.ledger.get? record.id = state.ledger.get? record.id

theorem Agrees.refl (access : Access) (state : State) : Agrees access state state :=
  ⟨rfl, rfl, rfl, rfl, rfl, fun _ _ => rfl⟩

theorem Reaches.get?_view (reaches : state.Reaches access) (sound : state.Sound)
    {record : BorrowRecord} (viewed : access.view = some record) :
    state.ledger.get? record.id = some record :=
  sound.ledger.get?_eq_some_iff.mpr ⟨(reaches.view viewed).2.1, rfl⟩

/-- An access reaches the same in all states that agree on it. -/
theorem Agrees.accessOf? (agrees : Agrees access state other) (reaches : state.Reaches access)
    (sound : state.Sound) : other.accessOf? access.binding = state.accessOf? access.binding := by
  unfold State.accessOf?
  cases viewed : access.view with
  | none =>
      rw [reaches.direct viewed]
      dsimp only
      rw [agrees.contained]
  | some record =>
      obtain ⟨referent, -, onContainer⟩ := reaches.view viewed
      rw [referent]
      dsimp only
      rw [agrees.viewed record viewed, reaches.get?_view sound viewed, Option.bind_some,
        Option.bind_some, onContainer, agrees.contained]

/-- A name that reaches something reaches it in every state that agrees on it. -/
theorem Agrees.reach? (agrees : Agrees access state other) (sound : state.Sound)
    (reached : state.reach? name = some access) : other.reach? name = some access := by
  obtain ⟨reaches, lookup, found⟩ := sound.reach reached {}
  obtain ⟨id, named, bound⟩ := Option.bind_eq_some_iff.mp (lookupBinding_eq_ok_iff.mp lookup)
  have sameId := sound.binding_id bound
  subst sameId
  rw [State.reach?, agrees.scopes, named, Option.bind_some, agrees.bound, bound, Option.bind_some,
    agrees.accessOf? reaches sound, found]

/-- The borrow that an access acts through is found in every state that agrees on it. -/
theorem Agrees.record?_bind (agrees : Agrees access state other) (reaches : state.Reaches access)
    (sound : state.Sound) : access.record?.bind other.ledger.get? = access.view := by
  rw [Access.record?]
  cases viewed : access.view with
  | none => rfl
  | some record =>
      rw [Option.map_some, Option.bind_some, agrees.viewed record viewed]
      exact reaches.get?_view sound viewed

theorem Agrees.content (agrees : Agrees access state other) (reaches : state.Reaches access) :
    other.content access.container.id = access.container.content :=
  content_eq (agrees.contained.trans reaches.container)

theorem Agrees.bare (agrees : Agrees access state other) : other.bare = state.bare := by
  rw [State.bare, agrees.scopes]
  rfl

/-- Where states agree, operations that leave the same behind are described alike. -/
theorem Agrees.describeAccess (agrees : Agrees access state other) (patch : Patch)
    (values : List (Option Value)) :
    (other.patch access patch).describeAccess access values =
      (state.patch access patch).describeAccess access values := by
  have bare : (other.patch access patch).bare = (state.patch access patch).bare := agrees.bare
  simp only [State.describeAccess, describe, container?_patch, binding?_patch, agrees.contained,
    agrees.bound, bare]

end State

/-! ## Checks -/

/-- A write is checked against the borrows of its container alone. -/
theorem Ledger.checkWrite_congr {ledger other : Ledger} {container : ContainerId}
    (borrowed : other.recordsOn container = ledger.recordsOn container)
    (paged : other.page container = ledger.page container) (footprint : SlotSet)
    (except : Option RecordId) :
    other.checkWrite container footprint except = ledger.checkWrite container footprint except := by
  simp only [checkWrite, firstConflict, borrowed, paged]

theorem Ledger.checkRead_congr {ledger other : Ledger} {container : ContainerId}
    (borrowed : other.recordsOn container = ledger.recordsOn container)
    (paged : other.page container = ledger.page container) (footprint : SlotSet)
    (except : Option RecordId) :
    other.checkRead container footprint except = ledger.checkRead container footprint except := by
  simp only [checkRead, firstConflict, borrowed, paged]

namespace State

variable {state other : State} {access left right : Access} {name : String} {span : Span}

theorem Agrees.ensureUnborrowed (agrees : Agrees access state other) (footprint : SlotSet)
    (attempt : Attempt) (span : Span) :
    access.ensureUnborrowed other.ledger footprint attempt span =
      access.ensureUnborrowed state.ledger footprint attempt span := by
  simp only [Access.ensureUnborrowed, Ledger.checkWrite_congr agrees.borrowed agrees.paged]

theorem Agrees.checkInsertions (agrees : Agrees access state other) (placements : List Placement)
    (span : Span) : access.checkInsertions other.ledger placements span =
      access.checkInsertions state.ledger placements span := by
  simp only [Access.checkInsertions, agrees.ensureUnborrowed]

theorem Agrees.checkPop (agrees : Agrees access state other) (extent : Option Extent)
    (span : Span) :
    access.checkPop other.ledger extent span = access.checkPop state.ledger extent span := by
  simp only [Access.checkPop, agrees.ensureUnborrowed]

theorem Agrees.checkPeek (agrees : Agrees access state other) (extent : Option Extent)
    (span : Span) :
    access.checkPeek other.ledger extent span = access.checkPeek state.ledger extent span := by
  simp only [Access.checkPeek, Access.ensureReadable,
    Ledger.checkRead_congr agrees.borrowed agrees.paged]

end State

/-! ## Operations through one binding -/

/-- What an insertion leaves behind. -/
def Access.insertion (access : Access) (placement : Placement) (slot : Slot) : Patch where
  content := some (access.container.content.insert placement slot)
  slots := match placement with
    | .head => access.view.map fun record => record.slots.insert access.container.length
    | .tail => access.view.map fun record => (record.slots.shiftUp 1).insert 0
    | .replace _ => none

/-- What a removal leaves behind. -/
def Access.deletion (access : Access) (removed : SlotSet) : Patch where
  content := some (access.container.content.remove removed.toList).2
  slots := access.view.map fun record => record.slots.compact removed

/-- The binding that a push of a literal, a pop, a peek or a change of perspective acts through. -/
def Operation.through? : Operation → Option String
  | .push binding (.value _) _ _ => some binding
  | .pop binding _ => some binding
  | .peek binding _ => some binding
  | .setPerspective binding _ => some binding
  | .flip binding => some binding
  | _ => none

namespace State

variable {state other : State} {access left right : Access} {name : String} {span : Span}

theorem Agrees.insert (agrees : Agrees access state other) (reaches : state.Reaches access)
    (sound : state.Sound) (placement : Placement) (slot : Slot) :
    other.insert access placement slot =
      other.patch access (access.insertion placement slot) := by
  simp only [State.insert, agrees.record?_bind reaches sound, agrees.content reaches,
    Access.insertion, patch_content]
  cases viewed : access.view <;> cases placement <;> simp only [Ledger.patch, viewed] <;> rfl

theorem Agrees.remove (agrees : Agrees access state other) (reaches : state.Reaches access)
    (sound : state.Sound) (removed : SlotSet) :
    other.remove access removed = ((access.container.content.remove removed.toList).1,
      other.patch access (access.deletion removed)) := by
  simp only [State.remove, agrees.record?_bind reaches sound, agrees.content reaches,
    Access.deletion, patch_content]
  cases viewed : access.view <;> simp only [Ledger.patch, viewed] <;> rfl

/-- An operation that leaves the same behind, with the same verdict and the same reports, in all
states that agree on an access. -/
def Local (state : State) (access : Access) (operation : State → Outcome) : Prop :=
  ∃ patch verdict reports, ∀ other, Agrees access state other →
    operation other = ⟨other.patch access patch, verdict, reports⟩

/-- A check that looks at what the states agree on comes first. -/
theorem local_bind {α : Type} {check : State → Except Diagnostic α}
    {next : State → α → Except Diagnostic Outcome}
    (same : ∀ other, Agrees access state other → check other = check state)
    (rest : ∀ value, state.Local access fun other => other.settle (next other value)) :
    state.Local access fun other => other.settle (check other >>= next other) := by
  cases checked : check state with
  | ok value =>
      obtain ⟨patch, verdict, reports, does⟩ := rest value
      refine ⟨patch, verdict, reports, ?_⟩
      intro other agrees
      change other.settle (check other >>= next other) = _
      rw [same other agrees, checked]
      exact does other agrees
  | error diagnostic =>
      refine ⟨{}, state.bare, [diagnostic], ?_⟩
      intro other agrees
      change other.settle (check other >>= next other) = _
      rw [same other agrees, checked, patch_nothing, ← agrees.bare]
      rfl

/-- An operation that is let through and described by what it leaves behind. -/
theorem local_ok {operate : State → Except Diagnostic Outcome} (patch : Patch)
    (values : List (Option Value))
    (does : ∀ other, Agrees access state other → operate other = .ok
      ⟨other.patch access patch, (other.patch access patch).describeAccess access values, []⟩) :
    state.Local access fun other => other.settle (operate other) := by
  refine ⟨patch, (state.patch access patch).describeAccess access values, [], ?_⟩
  intro other agrees
  rw [← agrees.describeAccess]
  exact congrArg other.settle (does other agrees)

theorem local_withAccess (sound : state.Sound) (reached : state.reach? name = some access)
    {operate : State → Access → Except Diagnostic Outcome}
    (operates : state.Local access fun other => other.settle (operate other access)) :
    state.Local access fun other =>
      other.settle (other.withAccess name span (operate other)) := by
  obtain ⟨patch, verdict, reports, does⟩ := operates
  refine ⟨patch, verdict, reports, ?_⟩
  intro other agrees
  exact (congrArg other.settle (withAccess_eq_of_reach (agrees.reach? sound reached))).trans
    (does other agrees)

/-- An operation through a binding is local to what the binding reaches. -/
theorem perform_local (sound : state.Sound) (reached : state.reach? name = some access)
    {operation : Operation} (through : operation.through? = some name) (span : Span) :
    state.Local access (·.perform operation span) := by
  obtain ⟨reaches, -⟩ := sound.reach reached span
  cases operation with
  | push binding operand key conversion =>
      cases operand with
      | transfer source effect => contradiction
      | value literal =>
          cases through
          apply local_withAccess sound reached
          refine local_bind (fun _ _ => rfl) fun _ => ?_
          refine local_bind (fun _ _ => rfl) fun converted => ?_
          refine local_bind (fun _ _ => rfl) fun placement => ?_
          refine local_bind (fun _ agrees => agrees.checkInsertions ..) fun _ => ?_
          refine local_ok (access.insertion placement ⟨converted, key⟩) [converted] ?_
          intro other agrees
          rw [← agrees.insert reaches sound]
          rfl
  | pop binding extent =>
      cases through
      apply local_withAccess sound reached
      refine local_bind (fun _ agrees => agrees.checkPop ..) fun removed => ?_
      refine local_ok (access.deletion removed)
        ((access.container.content.remove removed.toList).1.map (·.value)) ?_
      intro other agrees
      rw [agrees.remove reaches sound]
      rfl
  | peek binding extent =>
      cases through
      apply local_withAccess sound reached
      refine local_bind (fun _ agrees => agrees.checkPeek ..) fun slots => ?_
      refine local_ok {} (slots.toList.map fun position =>
        (access.container.content[position]?).bind (·.value)) ?_
      intro other _
      rw [patch_nothing]
      rfl
  | setPerspective binding perspective =>
      cases through
      apply local_withAccess sound reached
      refine local_bind (fun _ _ => rfl) fun set => ?_
      refine local_ok { stance := some set.2 } [] ?_
      intro other _
      rw [patch_stance]
      rfl
  | flip binding =>
      cases through
      apply local_withAccess sound reached
      refine local_bind (fun _ _ => rfl) fun stance => ?_
      refine local_ok { stance := some stance } [] ?_
      intro other _
      rw [patch_stance]
      rfl
  | _ => contradiction

/-! ## Different containers -/

/-- A binding reaches one container. -/
theorem Reaches.binding_ne (leftReaches : state.Reaches left) (rightReaches : state.Reaches right)
    (sound : state.Sound) (apart : left.container.id ≠ right.container.id) :
    left.binding.id ≠ right.binding.id := by
  intro same
  have bound := rightReaches.binding
  rw [← same, leftReaches.binding] at bound
  have found := leftReaches.accessOf? sound
  rw [Option.some.inj bound, rightReaches.accessOf? sound] at found
  exact apart (congrArg (·.container.id) (Option.some.inj found).symm)

/-- What is done through an access does not show through one to another container. -/
theorem Reaches.agrees_patch (leftReaches : state.Reaches left)
    (rightReaches : state.Reaches right) (sound : state.Sound)
    (apart : left.container.id ≠ right.container.id) (patch : Patch) :
    Agrees left state (state.patch right patch) := by
  have bound : (state.patch right patch).binding? left.binding.id =
      state.binding? left.binding.id := by
    rw [binding?_patch, if_neg (leftReaches.binding_ne rightReaches sound apart)]
  have contained : (state.patch right patch).container? left.container.id =
      state.container? left.container.id := by
    rw [container?_patch, if_neg apart]
  rcases Ledger.patch_cases right patch.slots with same | ⟨record, moved, viewed, rebases⟩
  · have ledger : (state.patch right patch).ledger = state.ledger := same _
    exact ⟨rfl, bound, contained, by rw [ledger], by rw [ledger], fun _ _ => by rw [ledger]⟩
  · have ledger : (state.patch right patch).ledger = state.ledger.rebase record.id moved :=
      rebases _
    obtain ⟨-, member, onRight⟩ := rightReaches.view viewed
    have borrowed : (state.patch right patch).ledger.listing left.container.id =
        state.ledger.listing left.container.id := by
      rw [ledger]
      exact Ledger.listing_rebase_of_ne sound.ledger member fun same =>
        apart (same.symm.trans onRight)
    have wf : (state.patch right patch).ledger.WellFormed := by
      rw [ledger]
      exact Ledger.rebase_wellFormed sound.ledger ..
    refine ⟨rfl, bound, contained, ?_, ?_, ?_⟩
    · rw [wf.recordsOn_eq_listing, sound.ledger.recordsOn_eq_listing, borrowed]
    · rw [wf.page_eq, sound.ledger.page_eq, borrowed]
    · intro own ownViewed
      obtain ⟨-, ownMember, onLeft⟩ := leftReaches.view ownViewed
      rw [ledger]
      apply Ledger.get?_rebase_of_ne
      intro same
      have one := sound.ledger.eq_of_id_eq ownMember member same
      exact apart (onLeft.symm.trans ((congrArg (·.container) one).trans onRight))

/-- The borrows of accesses to different containers may get new positions in either order. -/
theorem Reaches.ledger_patch_comm (leftReaches : state.Reaches left)
    (rightReaches : state.Reaches right) (sound : state.Sound)
    (apart : left.container.id ≠ right.container.id) (one other : Option SlotSet) :
    (state.ledger.patch left one).patch right other =
      (state.ledger.patch right other).patch left one := by
  rcases Ledger.patch_cases left one with same | ⟨first, moved, viewed, rebases⟩
  · rw [same, same]
  · rcases Ledger.patch_cases right other with otherSame |
      ⟨second, otherMoved, otherViewed, otherRebases⟩
    · rw [otherSame, otherSame]
    · obtain ⟨-, member, onLeft⟩ := leftReaches.view viewed
      obtain ⟨-, otherMember, onRight⟩ := rightReaches.view otherViewed
      have different : first.container ≠ second.container := by
        rw [onLeft, onRight]
        exact apart
      simp only [rebases, otherRebases]
      exact Ledger.rebase_comm sound.ledger member otherMember different moved otherMoved

/-- What is done through accesses to different containers may be done in either order. -/
theorem Reaches.patch_comm (leftReaches : state.Reaches left) (rightReaches : state.Reaches right)
    (sound : state.Sound)
    (apart : left.container.id ≠ right.container.id) (one other : Patch) :
    (state.patch left one).patch right other = (state.patch right other).patch left one := by
  have different := leftReaches.binding_ne rightReaches sound apart
  have containers : ((state.patch left one).patch right other).containers =
      ((state.patch right other).patch left one).containers :=
    List.modify_modify_ne _ _ _ fun same => apart (congrArg ContainerId.mk same)
  have bindings : ((state.patch left one).patch right other).bindings =
      ((state.patch right other).patch left one).bindings :=
    List.modify_modify_ne _ _ _ fun same => different (congrArg BindingId.mk same)
  have ledger : ((state.patch left one).patch right other).ledger =
      ((state.patch right other).patch left one).ledger :=
    leftReaches.ledger_patch_comm rightReaches sound apart one.slots other.slots
  exact (State.mk.injEq ..).mpr ⟨rfl, containers, bindings, ledger, rfl⟩

/-- Each of two operations that are local to different containers does after the other what it does
by itself. -/
theorem Local.commute {first second : State → Outcome} (firstLocal : state.Local left first)
    (secondLocal : state.Local right second) (leftReaches : state.Reaches left)
    (rightReaches : state.Reaches right) (sound : state.Sound)
    (apart : left.container.id ≠ right.container.id) :
    ∃ after, second (first state).state = ⟨after, (second state).verdict, (second state).reports⟩ ∧
      first (second state).state = ⟨after, (first state).verdict, (first state).reports⟩ := by
  obtain ⟨one, verdict, reports, does⟩ := firstLocal
  obtain ⟨other, otherVerdict, otherReports, doesToo⟩ := secondLocal
  have agrees := leftReaches.agrees_patch rightReaches sound apart other
  have agreesToo := rightReaches.agrees_patch leftReaches sound (Ne.symm apart) one
  refine ⟨(state.patch left one).patch right other, ?_, ?_⟩
  · rw [does state (.refl left state), doesToo state (.refl right state), doesToo _ agreesToo]
  · rw [doesToo state (.refl right state), does state (.refl left state), does _ agrees,
      leftReaches.patch_comm rightReaches sound apart]

end State

namespace Verification

/-- What two operations at the end of a run add to it. -/
theorem run_pair (verification : Verification) (nodes : List Node) (first second : Node) :
    let before := verification.run nodes
    let one := before.state.perform first.operation first.span
    let other := one.state.perform second.operation second.span
    verification.run (nodes ++ [first, second]) =
      { state := other.state
        nodes := before.nodes ++ [⟨first, one.verdict⟩, ⟨second, other.verdict⟩]
        diagnostics := before.diagnostics ++ one.reports ++ other.reports
        last := second.span } := by
  simp [run, step]

/-- Operations through bindings of different containers commute: in either order each gets the
verdict and the reports that it gets by itself, and the state at the end is the same. -/
theorem independent_commute (nodes : List Node) {first second : Node} {name otherName : String}
    {left right : Access} (through : first.operation.through? = some name)
    (otherThrough : second.operation.through? = some otherName)
    (reached : (run {} nodes).state.reach? name = some left)
    (otherReached : (run {} nodes).state.reach? otherName = some right)
    (apart : left.container.id ≠ right.container.id) :
    let before := run {} nodes
    let one := before.state.perform first.operation first.span
    let other := before.state.perform second.operation second.span
    ∃ after,
      run {} (nodes ++ [first, second]) =
          { state := after
            nodes := before.nodes ++ [⟨first, one.verdict⟩, ⟨second, other.verdict⟩]
            diagnostics := before.diagnostics ++ one.reports ++ other.reports
            last := second.span } ∧
        run {} (nodes ++ [second, first]) =
          { state := after
            nodes := before.nodes ++ [⟨second, other.verdict⟩, ⟨first, one.verdict⟩]
            diagnostics := before.diagnostics ++ other.reports ++ one.reports
            last := first.span } := by
  have sound := run_sound nodes
  have reaches := (sound.reach reached {}).1
  have otherReaches := (sound.reach otherReached {}).1
  obtain ⟨after, inOrder, swapped⟩ := (State.perform_local sound reached through first.span).commute
    (State.perform_local sound otherReached otherThrough second.span) reaches otherReaches sound
    apart
  refine ⟨after, ?_, ?_⟩
  · simp only [run_pair, inOrder]
  · simp only [run_pair, swapped]

/-- A run that lends all slots of two containers. -/
def lentApart : List Node :=
  [⟨.declare "numbers" .integer none .owned, {}⟩,
    ⟨.bind "n" "numbers" none, {}⟩,
    ⟨.push "n" (.value (.integer 0)) none none, {}⟩,
    ⟨.push "n" (.value (.integer 7)) none none, {}⟩,
    ⟨.borrow "popped" "n" (.range 0 1) .mutable, {}⟩,
    ⟨.declare "flags" .bool none .owned, {}⟩,
    ⟨.bind "f" "flags" none, {}⟩,
    ⟨.push "f" (.value (.bool false)) none none, {}⟩,
    ⟨.borrow "pushed" "f" (.range 0 0) .mutable, {}⟩]

/-- A pop and a push through the two views rebase both borrows, in either order. -/
theorem views_commute :
    let pop : Node := ⟨.pop "popped" none, {}⟩
    let push : Node := ⟨.push "pushed" (.value (.bool true)) none none, {}⟩
    let before := run {} lentApart
    let one := before.state.perform pop.operation pop.span
    let other := before.state.perform push.operation push.span
    (∃ left right, before.state.reach? "popped" = some left ∧
      before.state.reach? "pushed" = some right ∧ left.container.id ≠ right.container.id) ∧
    (one.verdict.ok = true ∧ one.state ≠ before.state) ∧
    (other.verdict.ok = true ∧ other.state ≠ before.state) ∧
    ∃ after,
      run {} (lentApart ++ [pop, push]) =
          { state := after
            nodes := before.nodes ++ [⟨pop, one.verdict⟩, ⟨push, other.verdict⟩]
            diagnostics := before.diagnostics ++ one.reports ++ other.reports
            last := push.span } ∧
        run {} (lentApart ++ [push, pop]) =
          { state := after
            nodes := before.nodes ++ [⟨push, other.verdict⟩, ⟨pop, one.verdict⟩]
            diagnostics := before.diagnostics ++ other.reports ++ one.reports
            last := pop.span } := by
  have reached : (run {} lentApart).state.reach? "popped" = some _ := rfl
  have otherReached : (run {} lentApart).state.reach? "pushed" = some _ := rfl
  refine ⟨⟨_, _, reached, otherReached, by decide⟩, by decide, by decide, ?_⟩
  exact independent_commute lentApart rfl rfl reached otherReached (by decide)

end Verification

end Custody
