import Custody.Proofs.Moves

/-!
# What a view shows

A view acts through a borrow, and the slots that it shows are those at the positions of the borrow.
When slots are popped or pushed through the view, the content of the container and the positions of
the borrow change apart from each other.  They stay together all the same: a pop takes the popped
slots out of what the view shows, and a push adds its slot at one end, or overwrites one value.
-/

namespace Custody

/-- What a push makes of the slots that a view shows: one more at the end where it is inserted, or
another value in a slot that carries its key. -/
def Placement.Extends (slot : Slot) (before after : Content) : Placement → Prop
  | .head => after = before ++ [slot]
  | .tail => after = slot :: before
  | .replace _ => ∃ front old back, before = front ++ old :: back ∧ old.key = slot.key ∧
      after = front ++ { old with value := slot.value } :: back

namespace Access

variable {access : Access} {span : Span}

theorem removal_inside {extent : Option Extent} {removed : SlotSet}
    (passed : access.removal extent span = .ok removed) :
    ∀ position ∈ removed, position < access.container.length := by
  simp only [removal] at passed
  split at passed
  · simp only [Check.reject_eq_ok, List.isEmpty_iff, Except.ok.injEq] at passed
    obtain ⟨-, filled, rfl⟩ := passed
    intro position member
    rw [SlotSet.mem_singleton.mp member]
    exact Nat.sub_one_lt_of_lt (List.length_pos_iff.mpr filled)
  · exact Container.resolve_inside (Check.reject_eq_ok.mp passed).2
  · exact Container.resolve_inside (Check.reject_eq_ok.mp passed).2

/-- A pop through a view removes the slots that it names, all of which the view covers. -/
theorem checkPop_view {ledger : Ledger} {extent : Option Extent} {removed : SlotSet}
    {record : BorrowRecord} (viewed : access.view = some record)
    (passed : access.checkPop ledger extent span = .ok removed) :
    access.removal extent span = .ok removed ∧ ∀ position ∈ removed, position ∈ record.slots := by
  simp only [checkPop, viewed, Check.throw_eq_error, Check.error_bind, Check.bind_eq_ok,
    Check.reject_eq_ok, Check.pure_eq_ok, Bool.not_eq_true, Bool.not_eq_false',
    SlotSet.covers_iff] at passed
  obtain ⟨_, -, positions, resolved, covered, _, -, rfl⟩ := passed
  exact ⟨resolved, covered⟩

/-- What an insertion through a view makes of the slots at its positions. -/
theorem Admits.extends {ledger : Ledger} {key : Option Value} {placement : Placement}
    (admits : access.Admits ledger key placement) {record : BorrowRecord}
    (viewed : access.view = some record)
    (inside : ∀ position ∈ record.slots, position < access.container.length)
    (value : Option Value) :
    placement.Extends ⟨value, key⟩ (access.container.content.slotsAt record.slots.toList)
      ((access.container.content.insert placement ⟨value, key⟩).slotsAt
        (placement.grow access.container.length record.slots).toList) := by
  cases placement with
  | head => exact Content.slotsAt_insert_head inside ⟨value, key⟩
  | tail => exact Content.slotsAt_insert_tail access.container.content record.slots ⟨value, key⟩
  | replace position =>
      have member : position ∈ record.slots := admits.within record viewed
      -- Only a key that is found leads to a replacement.
      obtain ⟨-, ends⟩ | ⟨own, rfl, found⟩ := placement_eq_ok (admits.placed {})
      · simp at ends
      · obtain ⟨old, there, sameKey⟩ := Content.exists_of_placementOf found.symm
        obtain ⟨front, back, before, after⟩ :=
          Content.slotsAt_insert_replace member there ⟨value, some own⟩
        exact ⟨front, old, back, before, sameKey, after⟩

end Access

namespace State

variable {state : State} {name : String} {access : Access} {record : BorrowRecord} {span : Span}

/-- The slots that a borrow covers, from the tail on. -/
def shown (state : State) (record : BorrowRecord) : Content :=
  (state.content record.container).slotsAt record.slots.toList

/-- The borrow that an access acts through, once the access has changed its positions. -/
theorem Reaches.get?_of_map {ledger : Ledger} (wf : ledger.WellFormed)
    (reaches : state.Reaches access) (viewed : access.view = some record)
    {change : BorrowRecord → SlotSet}
    (records : ledger.records = state.ledger.records.map fun record =>
      if some record.id = access.record? then { record with slots := change record } else record) :
    ledger.get? record.id = some { record with slots := change record } := by
  obtain ⟨-, member, -⟩ := reaches.view viewed
  have own : some record.id = access.record? := by
    rw [Access.record?, viewed]
    rfl
  refine wf.get?_eq_some_iff.mpr ⟨?_, rfl⟩
  rw [records]
  exact List.mem_map.mpr ⟨record, member, if_pos own⟩

/-- Every position of a checked borrow has a slot. -/
theorem Sound.length_shown (sound : state.Sound) (active : record ∈ state.ledger.records)
    (ledgered : record.ledgered = true) : (state.shown record).length = record.slots.size := by
  rw [SlotSet.size_eq_length]
  apply Content.length_slotsAt
  intro position listed
  exact sound.inside active rfl ledgered position ((SlotSet.mem_toList ..).mp listed)

/-- What a pop through a view leaves of the slots that the view shows. -/
theorem pop_through_view (sound : state.Sound) (reached : state.reach? name = some access)
    (viewed : access.view = some record) {extent : Option Extent} {outcome : Outcome}
    (result : state.pop name extent span = .ok outcome) :
    ∃ removed slots, access.removal extent span = .ok removed ∧
      (∀ position ∈ removed, position ∈ record.slots) ∧
      outcome.verdict.values =
        ((state.content record.container).slotsAt removed.toList).map (·.value) ∧
      outcome.state.ledger.get? record.id = some { record with slots } ∧
      outcome.state.shown { record with slots } = (state.content record.container).slotsAt
        (record.slots.toList.filter (!removed.contains ·)) := by
  obtain ⟨reaches, -, -⟩ := sound.reach reached span
  obtain ⟨-, -, onContainer⟩ := reaches.view viewed
  rw [pop, withAccess_eq_of_reach reached] at result
  simp only [Check.bind_eq_ok, Check.pure_eq_ok] at result
  obtain ⟨removed, checked, rfl⟩ := result
  obtain ⟨resolved, covered⟩ := Access.checkPop_view viewed checked
  obtain ⟨ledger, wf, -, equal, records⟩ := remove_eq sound access removed
  refine ⟨removed, record.slots.compact removed, resolved, covered, ?_, ?_, ?_⟩
  · have yielded : (state.remove access removed).1 =
        ((state.content access.container.id).remove removed.toList).1 := by
      simp only [State.remove]
      split <;> rfl
    change (state.remove access removed).1.map (·.value) = _
    rw [yielded, onContainer, reaches.content,
      Content.removed_eq_slotsAt (Access.removal_inside resolved)]
  · rw [equal]
    exact reaches.get?_of_map wf viewed records
  · change ((state.remove access removed).2.content record.container).slotsAt
      (record.slots.compact removed).toList = _
    rw [onContainer, content_remove reaches.container]
    exact Content.slotsAt_compact ..

/-- What a push through a view makes of the slots that the view shows. -/
theorem push_through_view (sound : state.Sound) (reached : state.reach? name = some access)
    (viewed : access.view = some record) (ledgered : record.ledgered = true) {value : Value}
    {key : Option Value} {conversion : Option Conversion} {outcome : Outcome}
    (result : state.pushValue name value key conversion span = .ok outcome) :
    ∃ placement slot slots, access.placement key span = .ok placement ∧ slot.key = key ∧
      value.convertFor conversion access.container.element span = .ok slot.value ∧
      outcome.verdict.values = [slot.value] ∧
      outcome.state.ledger.get? record.id = some { record with slots } ∧
      placement.Extends slot (state.shown record) (outcome.state.shown { record with slots }) := by
  obtain ⟨reaches, -, -⟩ := sound.reach reached span
  obtain ⟨-, member, onContainer⟩ := reaches.view viewed
  have inside := sound.inside member onContainer ledgered
  obtain ⟨converted, placement, converts, admits, rfl⟩ :=
    (pushValue_eq_ok_iff sound reached).mp result
  obtain ⟨ledger, wf, -, equal, records⟩ := insert_eq sound access placement ⟨converted, key⟩
  rw [reaches.content] at inside records
  refine ⟨placement, ⟨converted, key⟩, placement.grow access.container.length record.slots,
    admits.placed span, rfl, Value.convertFor_eq_ok_iff.mpr converts, rfl, ?_, ?_⟩
  · rw [State.pushed, equal]
    exact reaches.get?_of_map wf viewed records
  · change placement.Extends _ ((state.content record.container).slotsAt record.slots.toList)
      (((state.insert access placement ⟨converted, key⟩).content record.container).slotsAt
        (placement.grow access.container.length record.slots).toList)
    rw [onContainer, content_insert reaches.container, reaches.content]
    exact admits.extends viewed inside converted

end State

namespace Verification

/-- A view keeps naming the same data.  A pop through it takes the popped slots out of the slots
that it shows.  A push of a literal adds its slot at the head or at the tail of what the view shows,
by where it is inserted, or overwrites the value of a slot with its key.  No position of the borrow
is ever without a slot. -/
theorem view_keeps_its_data (nodes : List Node) {name : String} {access : Access}
    {record : BorrowRecord} (reached : (run {} nodes).state.reach? name = some access)
    (viewed : access.view = some record) (ledgered : access.container.mode.isLedgered = true)
    (span : Span) :
    let state := (run {} nodes).state
    let content := state.content record.container
    (state.shown record).length = record.slots.size ∧
      (∀ extent,
        let popped := state.perform (.pop name extent) span
        popped.verdict.ok = true → ∃ removed slots, access.removal extent span = .ok removed ∧
          (∀ position ∈ removed, position ∈ record.slots) ∧
          popped.verdict.values = (content.slotsAt removed.toList).map (·.value) ∧
          popped.state.ledger.get? record.id = some { record with slots } ∧
          (popped.state.shown { record with slots }).length = slots.size ∧
          popped.state.shown { record with slots } =
            content.slotsAt (record.slots.toList.filter (!removed.contains ·))) ∧
      ∀ value key conversion,
        let pushed := state.perform (.push name (.value value) key conversion) span
        pushed.verdict.ok = true → ∃ placement slot slots,
          access.placement key span = .ok placement ∧ slot.key = key ∧
          value.convertFor conversion access.container.element span = .ok slot.value ∧
          pushed.verdict.values = [slot.value] ∧
          pushed.state.ledger.get? record.id = some { record with slots } ∧
          (pushed.state.shown { record with slots }).length = slots.size ∧
          placement.Extends slot (state.shown record)
            (pushed.state.shown { record with slots }) := by
  intro state content
  have sound : state.Sound := run_sound nodes
  obtain ⟨reaches, -, -⟩ := sound.reach reached span
  obtain ⟨-, member, onContainer⟩ := reaches.view viewed
  have checked : record.ledgered = true :=
    (sound.backs member (onContainer ▸ reaches.container)).ledgered.trans ledgered
  have later (operation : Operation) : (state.perform operation span).state.Sound := by
    have sound := run_sound (nodes ++ [⟨operation, span⟩])
    rwa [run_concat] at sound
  refine ⟨sound.length_shown member checked, ?_, ?_⟩
  · intro extent popped accepted
    obtain ⟨outcome, result, -⟩ := State.settle_accepted accepted
    have performed : popped = outcome := congrArg state.settle result
    obtain ⟨removed, slots, resolved, covered, values, active, shown⟩ :=
      State.pop_through_view sound reached viewed result
    rw [← performed] at values active shown
    exact ⟨removed, slots, resolved, covered, values, active,
      (later _).length_shown (Ledger.mem_of_get? active).1 checked, shown⟩
  · intro value key conversion pushed accepted
    obtain ⟨outcome, result, -⟩ := State.settle_accepted accepted
    have performed : pushed = outcome := congrArg state.settle result
    obtain ⟨placement, slot, slots, placed, sameKey, converts, values, active, extended⟩ :=
      State.push_through_view sound reached viewed checked result
    rw [← performed] at values active extended
    exact ⟨placement, slot, slots, placed, sameKey, converts, values, active,
      (later _).length_shown (Ledger.mem_of_get? active).1 checked, extended⟩

/-- A run that lends the first, the third and the fifth of five slots to a view. -/
def lendingOdd : List Node :=
  [⟨.declare "stock" .integer (some .string) .owned, {}⟩,
    ⟨.bind "all" "stock" (some .hashed), {}⟩,
    ⟨.push "all" (.value (.integer 1)) (some (.string "a")) none, {}⟩,
    ⟨.push "all" (.value (.integer 2)) (some (.string "b")) none, {}⟩,
    ⟨.push "all" (.value (.integer 3)) (some (.string "c")) none, {}⟩,
    ⟨.push "all" (.value (.integer 4)) (some (.string "d")) none, {}⟩,
    ⟨.push "all" (.value (.integer 5)) (some (.string "e")) none, {}⟩,
    ⟨.borrow "odd" "all" (.keys [.string "a", .string "c", .string "e"]) .mutable, {}⟩,
    ⟨.setPerspective "odd" .hashed, {}⟩]

/-- A pop of the first and the third slot through the view leaves it the fifth, and a push under a
new key adds a slot at its head. -/
theorem view_keeps_its_data_odd :
    ∃ access record, (run {} lendingOdd).state.reach? "odd" = some access ∧
      access.view = some record ∧ access.container.mode.isLedgered = true ∧
      record.slots.toList = [0, 2, 4] ∧
      ((run {} lendingOdd).state.perform
        (.pop "odd" (some (.keys [.string "c", .string "a"]))) {}).verdict.ok = true ∧
      (∃ slots, ((run {} lendingOdd).state.perform
        (.pop "odd" (some (.keys [.string "c", .string "a"]))) {}).state.shown
          { record with slots } = [⟨some (.integer 5), some (.string "e")⟩]) ∧
      ((run {} lendingOdd).state.perform
        (.push "odd" (.value (.integer 6)) (some (.string "f")) none) {}).verdict.ok = true ∧
      ∃ slot slots, slot.key = some (.string "f") ∧ ((run {} lendingOdd).state.perform
        (.push "odd" (.value (.integer 6)) (some (.string "f")) none) {}).state.shown
          { record with slots } = (run {} lendingOdd).state.shown record ++ [slot] := by
  obtain ⟨access, reached, record, viewed, ledgered, listed, content, removal, placement⟩ :
      ∃ access, (run {} lendingOdd).state.reach? "odd" = some access ∧
        ∃ record, access.view = some record ∧ access.container.mode.isLedgered = true ∧
          record.slots.toList = [0, 2, 4] ∧
          ((run {} lendingOdd).state.content record.container)[4]? =
            some ⟨some (.integer 5), some (.string "e")⟩ ∧
          access.removal (some (.keys [.string "c", .string "a"])) {} = .ok (.ofList [2, 0]) ∧
          access.placement (some (.string "f")) {} = .ok .head :=
    ⟨_, rfl, _, rfl, rfl, by decide, by decide, by decide, by decide⟩
  have popped : ((run {} lendingOdd).state.perform
      (.pop "odd" (some (.keys [.string "c", .string "a"]))) {}).verdict.ok = true := by decide
  have pushed : ((run {} lendingOdd).state.perform
      (.push "odd" (.value (.integer 6)) (some (.string "f")) none) {}).verdict.ok = true := by
    decide
  obtain ⟨-, pops, pushes⟩ := view_keeps_its_data lendingOdd reached viewed ledgered {}
  refine ⟨access, record, reached, viewed, ledgered, listed, popped, ?_, pushed, ?_⟩
  · obtain ⟨removed, slots, resolved, -, -, -, -, shown⟩ := pops _ popped
    refine ⟨slots, shown.trans ?_⟩
    obtain rfl := Except.ok.inj (removal.symm.trans resolved)
    rw [listed]
    exact Content.slotsAt_cons content []
  · obtain ⟨placed, slot, slots, found, sameKey, -, -, -, -, extended⟩ := pushes _ _ _ pushed
    obtain rfl := Except.ok.inj (placement.symm.trans found)
    exact ⟨slot, slots, sameKey, extended⟩

end Verification

end Custody
