import Custody.Proofs.Steps

/-!
# Pushes from one container to another

What a transfer that passed its checks is made of, and the changes that carry it out.  A slot that
was planned for the head is planned anew when it is inserted; a transfer of one slot ends up where
its check looked all the same.
-/

namespace Custody

/-! ## Checks of a transfer -/

namespace Access

variable {source target : Access} {state : State} {span : Span} {effect : Effect} {head : Nat}

/-- The source of a transfer is in use, is another container unless the head moves, and is not
empty unless all of it is taken. -/
theorem checkSource_eq_ok {ledger : Ledger}
    (passed : source.checkSource target ledger effect span = .ok head) :
    source.container.ensureUsable span = .ok () ∧ head = source.container.length - 1 ∧
      (source.container.id = target.container.id → effect = .move) ∧
      (effect ≠ .take → source.container.content ≠ []) ∧
      (effect = .move → source.checkMove ledger head span = .ok ()) ∧
      (effect = .take → source.checkTake ledger span = .ok ()) := by
  simp only [checkSource, Check.throw_eq_error, Check.error_bind, Check.reject_eq_ok,
    Check.bind_eq_ok] at passed
  obtain ⟨_, usable, another, filled, passed⟩ := passed
  have same : source.container.id = target.container.id → effect = .move := by
    intro same
    by_contra other
    simp [same, other] at another
  have nonempty : effect ≠ .take → source.container.content ≠ [] := by
    intro kept empty
    simp [empty, kept] at filled
  refine ⟨usable, ?_⟩
  cases effect <;> simp only [Check.bind_eq_ok, Check.pure_eq_ok] at passed <;>
    obtain ⟨_, checked, rfl⟩ := passed <;>
    exact ⟨rfl, same, nonempty, by simp_all, by simp_all⟩

/-- A head that may be moved out is under no rival. -/
theorem checkMove_eq_ok {ledger : Ledger} (passed : source.checkMove ledger head span = .ok ()) :
    source.ensureUnborrowed ledger (.singleton head) (.moveOut source.container.name) span =
      .ok () := by
  simp only [checkMove, Check.bind_eq_ok] at passed
  obtain ⟨_, -, _, -, unborrowed⟩ := passed
  exact unborrowed

theorem checkTake_eq_ok {ledger : Ledger} (passed : source.checkTake ledger span = .ok ()) :
    source.container.mode.canTake = true ∧ source.view = none ∧
      ledger.firstOn? source.container.id none = none := by
  simp only [checkTake, Check.throw_eq_error, Check.error_bind, Check.reject_eq_ok] at passed
  obtain ⟨takeable, direct, passed⟩ := passed
  split at passed
  · contradiction
  · rename_i free
    exact ⟨by simpa using takeable, by simpa using direct, by
      cases found : ledger.firstOn? source.container.id none with
      | none => rfl
      | some record => exact (free record found).elim⟩

/-- The target of a transfer is in use and may be changed. -/
theorem checkTarget_writable {ledger : Ledger} {key : Option Value} {slots : List Slot}
    {placements : List Placement}
    (passed : target.checkTarget source ledger effect key slots span = .ok placements) :
    target.container.ensureUsable span = .ok () ∧ target.container.mode.canMutate = true := by
  simp only [checkTarget, Check.bind_eq_ok] at passed
  obtain ⟨_, writable, -⟩ := passed
  exact ensureWritable_eq_ok writable

/-- The target of a transfer has a place for each slot, and the places spare its borrows. -/
theorem checkTarget_eq_ok {ledger : Ledger} {key : Option Value} {slots : List Slot}
    {placements : List Placement}
    (passed : target.checkTarget source ledger effect key slots span = .ok placements) :
    target.checkInsertions ledger placements span = .ok () ∧
      (effect = .take → takePlacements source target slots span = .ok placements) ∧
      (effect ≠ .take → ∃ placement, target.placement key span = .ok placement ∧
        placements = [placement]) := by
  simp only [checkTarget, Check.bind_eq_ok] at passed
  obtain ⟨_, -, passed⟩ := passed
  split at passed
  · rename_i takes
    split at passed
    · simp at passed
    · simp only [Check.bind_eq_ok, Check.pure_eq_ok] at passed
      obtain ⟨planned, placed, _, checked, rfl⟩ := passed
      exact ⟨checked, fun _ => placed, fun other => (other takes).elim⟩
  · rename_i other
    simp only [Check.bind_eq_ok, Check.pure_eq_ok] at passed
    obtain ⟨placement, placed, _, rfl, _, checked, rfl⟩ := passed
    exact ⟨checked, fun takes => (other takes).elim, fun _ => ⟨placement, placed, rfl⟩⟩

end Access

namespace State

variable {state : State} {span : Span} {source target : Access} {effect : Effect}
  {key : Option Value} {conversion : Option Conversion} {transfer : Transfer}

theorem checkTransfer_eq_ok
    (passed : state.checkTransfer target source effect key conversion span = .ok transfer) :
    transfer.target = target ∧ transfer.source = source ∧ transfer.effect = effect ∧
      source.checkSource target state.ledger effect span = .ok transfer.head ∧
      (∃ converted, source.convertSlots target effect conversion transfer.head span =
          .ok converted ∧ transfer.slots =
          if effect = .take then converted else converted.map fun slot => { slot with key }) ∧
      target.checkTarget source state.ledger effect key transfer.slots span =
        .ok transfer.placements := by
  simp only [checkTransfer, Check.bind_eq_ok, Check.mapError_eq_ok, Check.pure_eq_ok] at passed
  obtain ⟨head, sourcePassed, converted, conversionPassed, placements, targetPassed, rfl⟩ := passed
  exact ⟨rfl, rfl, rfl, sourcePassed, ⟨converted, conversionPassed, rfl⟩, targetPassed⟩

/-- Slots that are not taken lose their own key and carry the one of the push. -/
theorem key_of_mem_slots
    (passed : state.checkTransfer target source effect key conversion span = .ok transfer)
    (untaken : effect ≠ .take) {slot : Slot} (member : slot ∈ transfer.slots) : slot.key = key := by
  obtain ⟨-, -, -, -, ⟨converted, -, slots⟩, -⟩ := checkTransfer_eq_ok passed
  rw [slots, if_neg untaken] at member
  obtain ⟨original, -, rfl⟩ := List.mem_map.mp member
  rfl

end State

/-! ## Where planned slots land -/

/-- Where a planned slot lands in the content that it meets. -/
def Content.landing (content : Content) (planned : Placement) (slot : Slot) : Placement :=
  match planned, slot.key with
  | .head, some key => content.placementOf key
  | _, _ => planned

theorem Content.landing_eq_tail {content : Content} {planned : Placement} {slot : Slot}
    (landed : content.landing planned slot = .tail) : planned = .tail := by
  unfold landing at landed
  split at landed
  · unfold placementOf at landed
    split at landed <;> contradiction
  · exact landed

/-- A push that lands by its key, or at an end without one, is not planned anew as long as the
content is the one it was planned for. -/
theorem Access.landing_placement {access : Access} {key : Option Value} {span : Span}
    {placement : Placement} {slot : Slot} (placed : access.placement key span = .ok placement)
    (sameKey : slot.key = key) : access.container.content.landing placement slot = placement := by
  rcases placement_eq_ok placed with ⟨rfl, _⟩ | ⟨value, rfl, rfl⟩
  · cases placement <;> simp only [Content.landing, sameKey]
  · cases found : access.container.content.positionOf? value <;>
      simp only [Content.landing, Content.placementOf, found, sameKey]

/-- Once the head is gone, the push of it lands where it was planned or at the new head. -/
theorem Access.landing_afterRemoval {access : Access} {key : Option Value} {span : Span}
    {placement : Placement} {slot : Slot} (placed : access.placement key span = .ok placement)
    (sameKey : slot.key = key) {content : Content}
    (dropped : content = access.container.content.dropLast) :
    content.landing (placement.afterRemoval (access.container.length - 1)) slot = placement ∨
      content.landing (placement.afterRemoval (access.container.length - 1)) slot = .head := by
  rcases placement_eq_ok placed with ⟨rfl, rfl | rfl⟩ | ⟨value, rfl, rfl⟩
  · exact .inl (by simp only [Placement.afterRemoval, Content.landing, sameKey])
  · exact .inl (by simp only [Placement.afterRemoval, Content.landing])
  · rw [Content.placementOf]
    cases found : access.container.content.positionOf? value with
    | none =>
        have gone := Content.positionOf?_dropLast (.inl found)
        rw [← dropped] at gone
        exact .inl (by simp only [Placement.afterRemoval, Content.landing, sameKey,
          Content.placementOf, gone])
    | some position =>
        have inside : position < access.container.length := Content.positionOf?_lt found
        by_cases last : position = access.container.length - 1
        · have gone := Content.positionOf?_dropLast (.inr (last ▸ found))
          rw [← dropped] at gone
          exact .inr (by simp only [Placement.afterRemoval, last, ↓reduceIte, Content.landing,
            sameKey, Content.placementOf, gone])
        · have below : ¬access.container.length - 1 < position := by omega
          exact .inl (by simp only [Placement.afterRemoval, last, below, ↓reduceIte,
            Content.landing])

theorem Placement.Spares.mono {placement : Placement} {slots fewer : SlotSet}
    (spares : placement.Spares slots) (subset : ∀ position ∈ fewer, position ∈ slots) :
    placement.Spares fewer := by
  cases placement with
  | head => trivial
  | tail => exact fun position member => spares position (subset position member)
  | replace position => exact fun member => spares (subset position member)

namespace State

variable {state : State} {access : Access} {act : Act} {span : Span}

theorem insertAll_cons (planned : Placement) (slot : Slot) (rest : List (Placement × Slot)) :
    state.insertAll access ((planned, slot) :: rest) =
      (state.insert access ((state.content access.container.id).landing planned slot)
        slot).insertAll access rest := rfl

/-- Borrows other than the one that an insertion is made through stay as they are. -/
theorem rival_insert (sound : state.Sound) {placement : Placement} {slot : Slot} {id : ContainerId}
    {record : BorrowRecord}
    (rival : (state.insert access placement slot).ledger.Rival id access.record? record) :
    state.ledger.Rival id access.record? record := by
  obtain ⟨member, onContainer, ledgered, other⟩ := rival
  rw [records_insert sound] at member
  obtain ⟨old, oldMember, rfl⟩ := List.mem_map.mp member
  split at other
  · rename_i own
    exact (other own).elim
  · rename_i different
    rw [if_neg different] at onContainer ledgered ⊢
    exact ⟨oldMember, onContainer, ledgered, different⟩

/-- Changes of positions leave a borrow on its container. -/
private theorem acts_of_map {ledger after : Ledger} {actor owner : Option RecordId}
    {change : BorrowRecord → SlotSet} {id : ContainerId} (acts : ledger.Acts actor id)
    (records : after.records = ledger.records.map fun record =>
      if some record.id = owner then { record with slots := change record } else record) :
    after.Acts actor id := by
  intro record member named
  rw [records] at member
  obtain ⟨old, oldMember, rfl⟩ := List.mem_map.mp member
  split at named <;> split <;> first
    | contradiction
    | exact acts old oldMember named

/-- Once the head is removed, the other borrows cover no more than before. -/
theorem rival_removeHead (sound : state.Sound) (reaches : state.Reaches access)
    {actor : Option RecordId} {id : ContainerId} {kept : BorrowRecord}
    (rival : (state.remove access
      (.singleton (access.container.length - 1))).2.ledger.Rival id actor kept) :
    ∃ record, state.ledger.Rival id actor record ∧
      ∀ position ∈ kept.slots, position ∈ record.slots := by
  obtain ⟨member, onContainer, ledgered, other⟩ := rival
  rw [records_remove sound] at member
  obtain ⟨old, oldMember, rfl⟩ := List.mem_map.mp member
  refine ⟨old, ?_⟩
  by_cases own : some old.id = access.record?
  · rw [if_pos own] at onContainer ledgered other ⊢
    refine ⟨⟨oldMember, onContainer, ledgered, other⟩, ?_⟩
    intro position compacted
    obtain ⟨previous, inSlots, different, rfl⟩ := SlotSet.mem_compact.mp compacted
    have inside := sound.inside oldMember (reaches.acts sound old oldMember own) ledgered
      previous inSlots
    rw [reaches.content] at inside
    have below : previous < access.container.length - 1 := by
      have unequal : previous ≠ access.container.length - 1 := by simpa using different
      change previous < access.container.length at inside
      omega
    rw [SlotSet.below_eq_zero fun gone isGone => by
      rw [SlotSet.mem_singleton.mp isGone]
      exact Nat.le_of_lt below]
    exact inSlots
  · rw [if_neg own] at onContainer ledgered other ⊢
    exact ⟨⟨oldMember, onContainer, ledgered, other⟩, fun _ member => member⟩

/-! ## Carrying out -/

/-- A transfer of at most one slot makes at most one insertion. -/
theorem insertAll_single_changes (pushes : act.pushes = true)
    (actor : access.record? = act.target)
    (acts : state.ledger.Acts act.target access.container.id) {planned : Placement}
    {slots : List Slot} {declared : Container}
    (found : state.declaration? access.container.id = some declared)
    (writable : declared.mode.canMutate = true) (unmoved : state.Unmoved access.container.id)
    (spares : ∀ slot ∈ slots, ∀ record,
      state.ledger.Rival access.container.id act.target record →
      ((state.content access.container.id).landing planned slot).Spares record.slots) :
    Changes act state (state.insertAll access ([planned].zip slots)) := by
  cases slots with
  | nil => exact .refl
  | cons slot rest =>
      refine .single (.insert actor acts ?_ ⟨declared, found, writable⟩ pushes unmoved)
      intro record rival
      exact .inl (spares slot (by simp) record rival)

/-- A transfer of all slots makes one insertion after the other.  Those at the tail shift nothing
that is borrowed. -/
theorem insertAll_take_changes (sound : state.Sound) (pushes : act.pushes = true)
    (takes : act.takes = true) (actor : access.record? = act.target)
    (acts : state.ledger.Acts act.target access.container.id) {planned : List (Placement × Slot)}
    {declared : Container} (found : state.declaration? access.container.id = some declared)
    (writable : declared.mode.canMutate = true) (unmoved : state.Unmoved access.container.id)
    (spares : ∀ pair ∈ planned, pair.1 = .tail → ∀ record,
      state.ledger.Rival access.container.id act.target record →
      Placement.tail.Spares record.slots) :
    Changes act state (state.insertAll access planned) := by
  induction planned generalizing state with
  | nil => exact .refl
  | cons first rest ih =>
      obtain ⟨placement, slot⟩ := first
      rw [insertAll_cons]
      have inserted : Change act state (state.insert access
          ((state.content access.container.id).landing placement slot) slot) := by
        refine .insert actor acts ?_ ⟨declared, found, writable⟩ pushes unmoved
        intro record rival
        cases landed : (state.content access.container.id).landing placement slot with
        | head => exact .inl trivial
        | replace position => exact .inr ⟨takes, position, rfl⟩
        | tail =>
            exact .inl (spares (placement, slot) (by simp) (Content.landing_eq_tail landed) record
              rival)
      refine .head inserted (ih (inserted.sound sound) ?_ ((declaration?_insert _).trans found)
        unmoved.insert ?_)
      · exact acts_of_map acts (records_insert sound ..)
      · intro pair member isTail record rival
        rw [← actor] at rival
        exact spares pair (List.mem_cons_of_mem _ member) isTail record
          (actor ▸ rival_insert sound rival)

variable {source target : Access} {key : Option Value} {conversion : Option Conversion}
  {transfer : Transfer}

/-- After its head is gone, the source holds all but the last slot. -/
theorem content_removeHead (reaches : state.Reaches source) :
    (state.remove source (.singleton (source.container.length - 1))).2.content
      source.container.id = source.container.content.dropLast := by
  rw [content_remove reaches.container, reaches.content, Content.remove_singleton]
  exact List.eraseIdx_length_sub_one

/-- The push of a moved head lands where it was planned, or at the head. -/
theorem landing_moved (fromSource : state.Reaches source) (toTarget : state.Reaches target)
    {placement : Placement} {slot : Slot}
    (placed : target.placement key span = .ok placement) (sameKey : slot.key = key) :
    let after := (state.remove source (.singleton (source.container.length - 1))).2
    let planned := if source.container.id = target.container.id then
      placement.afterRemoval (source.container.length - 1) else placement
    (after.content target.container.id).landing planned slot = placement ∨
      (after.content target.container.id).landing planned slot = .head := by
  by_cases same : source.container.id = target.container.id
  · have sameContainer : source.container = target.container :=
      Option.some.inj (fromSource.container.symm.trans (same ▸ toTarget.container))
    have dropped := content_removeHead fromSource
    rw [sameContainer] at dropped
    simp only [sameContainer, ↓reduceIte]
    exact Access.landing_afterRemoval placed sameKey dropped
  · simp only [same, ↓reduceIte]
    rw [content_remove_of_ne (Ne.symm same), toTarget.content]
    exact .inl (Access.landing_placement placed sameKey)

theorem commitMove_changes (sound : state.Sound) (pushes : act.pushes = true)
    (fromSource : state.Reaches source) (toTarget : state.Reaches target)
    (sourceActor : source.record? = act.source) (targetActor : target.record? = act.target)
    (passed : state.checkTransfer target source .move key conversion span = .ok transfer) :
    Changes act state (state.commitMove transfer) := by
  obtain ⟨rfl, rfl, -, sourcePassed, -, targetPassed⟩ := checkTransfer_eq_ok passed
  obtain ⟨sourceUsable, head, -, -, moves, -⟩ := Access.checkSource_eq_ok sourcePassed
  obtain ⟨inserts, -, places⟩ := Access.checkTarget_eq_ok targetPassed
  obtain ⟨placement, placed, planned⟩ := places (by decide)
  obtain ⟨targetUsable, mutates⟩ := Access.checkTarget_writable targetPassed
  have unborrowed := Access.ensureUnborrowed_eq_ok sound fromSource.container
    (Access.checkMove_eq_ok (moves rfl))
  have removed : Change act state
      (state.remove transfer.source (.singleton (transfer.source.container.length - 1))).2 := by
    refine .remove sourceActor (sourceActor ▸ fromSource.acts sound) ?_
      (fromSource.unmoved sourceUsable)
    rw [← sourceActor]
    intro record rival position inSlots gone isGone
    have inside := (sound.rival_inside fromSource.container rival).2 position inSlots
    have unequal := unborrowed record rival position inSlots
    rw [SlotSet.mem_singleton, head] at unequal
    rw [SlotSet.mem_singleton.mp isGone]
    omega
  have carriedOut : state.commitMove transfer =
      (state.remove transfer.source (.singleton (transfer.source.container.length - 1))).2.insertAll
        transfer.target ([if transfer.source.container.id = transfer.target.container.id then
          placement.afterRemoval (transfer.source.container.length - 1) else placement].zip
            transfer.slots) := by
    rw [commitMove, head, planned]
    dsimp only
    split <;> rfl
  rw [carriedOut]
  refine .head removed (insertAll_single_changes pushes targetActor
    (acts_of_map (targetActor ▸ toTarget.acts sound) (records_remove sound ..))
    ((declaration?_remove _).trans toTarget.declaration) mutates
    (toTarget.unmoved targetUsable).remove ?_)
  intro slot member kept rival
  have sameKey := key_of_mem_slots passed (by decide) member
  obtain ⟨record, before, subset⟩ := rival_removeHead sound fromSource rival
  have spares := Access.checkInsertions_eq_ok sound toTarget.container inserts record
    (targetActor ▸ before) placement (planned ▸ List.mem_singleton_self placement)
  rcases landing_moved fromSource toTarget placed sameKey with landed | landed
  · rw [landed]
    exact spares.mono subset
  · rw [landed]
    trivial

theorem commitTake_changes (sound : state.Sound) (pushes : act.pushes = true)
    (takes : act.takes = true) (fromSource : state.Reaches source) (toTarget : state.Reaches target)
    (targetActor : target.record? = act.target)
    (passed : state.checkTransfer target source .take key conversion span = .ok transfer) :
    Changes act state (state.commitTake transfer span) := by
  obtain ⟨rfl, rfl, -, sourcePassed, -, targetPassed⟩ := checkTransfer_eq_ok passed
  obtain ⟨sourceUsable, -, another, -, -, taken⟩ := Access.checkSource_eq_ok sourcePassed
  obtain ⟨owned, -, free⟩ := Access.checkTake_eq_ok (taken rfl)
  obtain ⟨inserts, -, -⟩ := Access.checkTarget_eq_ok targetPassed
  obtain ⟨targetUsable, mutates⟩ := Access.checkTarget_writable targetPassed
  have acts := toTarget.acts sound
  rw [targetActor] at acts
  have moved : Change act state (state.markMoved transfer.source.container.id span) :=
    .move (fromSource.movable sound sourceUsable owned free)
  have declared : (state.markMoved transfer.source.container.id span).declaration?
      transfer.target.container.id = some transfer.target.container.declaration :=
    (declaration?_modifyContainer (by intro; rfl) _).trans toTarget.declaration
  have unmoved : (state.markMoved transfer.source.container.id span).Unmoved
      transfer.target.container.id :=
    (toTarget.unmoved targetUsable).of_changed (container?_modifyContainer ..) fun same =>
      nomatch another same.symm
  refine .head moved (insertAll_take_changes (moved.sound sound) pushes takes targetActor acts
    declared mutates unmoved ?_)
  intro pair member isTail record rival
  have planned := (List.of_mem_zip member).1
  rw [isTail] at planned
  exact Access.checkInsertions_eq_ok sound toTarget.container inserts record
    (targetActor ▸ rival) .tail planned

/-- A new borrow is none that an access is made through already. -/
theorem Reaches.acts_lend (sound : state.Sound) (reaches : state.Reaches access) (region : Region)
    (ledgered : Bool) :
    (state.ledger.insert region ledgered).2.Acts access.record? access.container.id := by
  intro record member named
  rw [Ledger.records_insert, List.mem_append, List.mem_singleton] at member
  rcases member with old | rfl
  · exact reaches.acts sound record old named
  · rw [Access.record?] at named
    cases viewed : access.view with
    | none => simp [viewed] at named
    | some own =>
        rw [viewed, Option.map_some, Option.some.injEq] at named
        have fresh := sound.ledger.fresh own (reaches.view viewed).2.1
        rw [← named] at fresh
        exact (Nat.lt_irrefl _ fresh).elim

/-- A new borrow is no rival on another container. -/
theorem rival_lend {ledger : Ledger} {region : Region} {ledgered : Bool} {id : ContainerId}
    {actor : Option RecordId} {record : BorrowRecord} (different : region.container ≠ id)
    (rival : (ledger.insert region ledgered).2.Rival id actor record) :
    ledger.Rival id actor record := by
  obtain ⟨member, onContainer, checked, other⟩ := rival
  rw [Ledger.records_insert, List.mem_append, List.mem_singleton] at member
  rcases member with old | rfl
  · exact ⟨old, onContainer, checked, other⟩
  · exact (different onContainer).elim

theorem commitReference_changes (sound : state.Sound) (pushes : act.pushes = true)
    (lends : act.lends = true) (fromSource : state.Reaches source) (toTarget : state.Reaches target)
    (sourceActor : source.record? = act.source) (targetActor : target.record? = act.target)
    {effect : Effect} {mode : BorrowMode} (reference : effect.borrowMode? = some mode)
    (passed : state.checkTransfer target source effect key conversion span = .ok transfer)
    {id : RecordId} {after : State}
    (committed : state.commitReference transfer mode span = .ok (id, after)) :
    Changes act state after := by
  obtain ⟨rfl, rfl, -, sourcePassed, -, targetPassed⟩ := checkTransfer_eq_ok passed
  have untaken : effect ≠ .take := by
    rintro rfl
    contradiction
  have unmoved : effect ≠ .move := by
    rintro rfl
    contradiction
  obtain ⟨usable, head, another, filled, -, -⟩ := Access.checkSource_eq_ok sourcePassed
  obtain ⟨inserts, -, places⟩ := Access.checkTarget_eq_ok targetPassed
  obtain ⟨placement, placed, planned⟩ := places untaken
  simp only [commitReference, Check.bind_eq_ok, Check.mapError_eq_ok, Check.pure_eq_ok,
    Prod.mk.injEq] at committed
  obtain ⟨⟨_, borrowed⟩, added, rfl, rfl⟩ := committed
  obtain ⟨-, same, apart⟩ := addBorrow_eq_ok sound fromSource.container added
  have lent : Change act state borrowed := by
    rw [same]
    refine .lend lends fromSource.container (Container.ensureUsable_eq_ok usable) ?_ rfl
      (sourceActor ▸ apart) (filled untaken) rfl
    intro position member
    rw [SlotSet.mem_singleton.mp member, head]
    exact Nat.sub_lt (List.length_pos_iff.mpr (filled untaken)) Nat.one_pos
  have acts : borrowed.ledger.Acts act.target transfer.target.container.id := by
    rw [same, ← targetActor]
    exact toTarget.acts_lend sound _ _
  have content : borrowed.content transfer.target.container.id =
      transfer.target.container.content := by
    rw [same]
    exact toTarget.content
  have declared : borrowed.declaration? transfer.target.container.id =
      some transfer.target.container.declaration := by
    rw [same]
    exact toTarget.declaration
  obtain ⟨targetUsable, mutates⟩ := Access.checkTarget_writable targetPassed
  have inPlace : borrowed.Unmoved transfer.target.container.id := by
    rw [same]
    exact toTarget.unmoved targetUsable
  dsimp only
  rw [planned]
  refine .head lent (insertAll_single_changes pushes targetActor acts declared mutates inPlace ?_)
  intro slot member record rival
  have sameKey := key_of_mem_slots passed untaken member
  rw [content, Access.landing_placement placed sameKey]
  rw [same, ← targetActor] at rival
  exact Access.checkInsertions_eq_ok sound toTarget.container inserts record
    (rival_lend (fun onTarget => unmoved (another onTarget)) rival) placement
    (planned ▸ List.mem_singleton_self placement)

/-- A transfer is made of checked changes. -/
theorem transfer_changes (sound : state.Sound) {targetName sourceName : String} {effect : Effect}
    {outcome : Outcome}
    (passed : state.transfer targetName sourceName effect key conversion span = .ok outcome) :
    Changes (state.act (.push targetName (.transfer sourceName effect) key conversion)) state
      outcome.state := by
  apply withAccess_changes sound passed
  intro target toTarget targetActor passed
  simp only [Check.bind_eq_ok, Check.mapError_eq_ok] at passed
  obtain ⟨reached, found, passed⟩ := passed
  split at passed
  · rw [Check.pure_eq_ok] at passed
    exact passed ▸ .refl
  · rename_i source
    obtain ⟨fromSource, lookup⟩ := access_eq_ok sound found
    have sourceActor := fromSource.record?_eq lookup
    simp only [Check.bind_eq_ok, Check.pure_eq_ok] at passed
    obtain ⟨transfer, checked, ⟨created, after⟩, committed, rfl⟩ := passed
    have sameEffect := (checkTransfer_eq_ok checked).2.2.1
    unfold commitTransfer at committed
    rw [sameEffect] at committed
    split at committed
    · rename_i mode reference
      simp only [Check.bind_eq_ok, Check.pure_eq_ok, Prod.mk.injEq] at committed
      obtain ⟨⟨id, _⟩, committed, -, rfl⟩ := committed
      have lends : (state.act
          (.push targetName (.transfer sourceName effect) key conversion)).lends = true := by
        simp only [act, Operation.lends, reference, Option.isSome_some]
      exact commitReference_changes sound rfl lends fromSource toTarget sourceActor targetActor
        reference checked committed
    · rename_i noReference
      split at committed
      · rename_i takes
        subst takes
        simp only [Except.ok.injEq, Prod.mk.injEq] at committed
        obtain ⟨-, rfl⟩ := committed
        exact commitTake_changes sound rfl rfl fromSource toTarget targetActor checked
      · simp only [Except.ok.injEq, Prod.mk.injEq] at committed
        obtain ⟨-, rfl⟩ := committed
        have moves : effect = .move := by
          cases effect <;> simp_all [Effect.borrowMode?]
        subst moves
        exact commitMove_changes sound rfl fromSource toTarget sourceActor targetActor checked

/-- An accepted transfer reached its target and its source, passed its checks and was carried
out. -/
theorem transfer_accepted {target source : String} {effect : Effect}
    (accepted : (state.settle
      (state.transfer target source effect key conversion span)).verdict.ok = true) :
    ∃ into origin transfer created after, state.access target span = .ok (some into) ∧
      state.access source span = .ok (some origin) ∧
      state.checkTransfer into origin effect key conversion span = .ok transfer ∧
      state.commitTransfer transfer span = .ok (created, after) ∧
      (state.settle (state.transfer target source effect key conversion span)).state = after := by
  obtain ⟨into, found, result⟩ := withAccess_accepted accepted
  change _ = Except.ok (state.settle (state.transfer target source effect key conversion span))
    at result
  simp only [Check.bind_eq_ok, Check.mapError_eq_ok] at result
  obtain ⟨reached, sourceFound, result⟩ := result
  cases reached with
  | none =>
      rw [Check.pure_eq_ok] at result
      rw [← result] at accepted
      contradiction
  | some origin =>
      simp only [Check.bind_eq_ok, Check.pure_eq_ok] at result
      obtain ⟨checked, passed, ⟨created, after⟩, committed, result⟩ := result
      rw [← result]
      exact ⟨into, origin, checked, created, after, found, sourceFound, passed, committed, rfl⟩

end State

end Custody
