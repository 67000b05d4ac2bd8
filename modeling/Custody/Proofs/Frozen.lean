import Custody.Proofs.Runs

/-!
# Borrowed data

As long as a checked borrow lasts, the slots that it covers change only through the borrow itself:
an operation that acts through other bindings leaves its positions alone and keeps the value and
the key in each of them.  Takes are left out: they may overwrite a slot whose key they bring along.
-/

namespace Custody

namespace State

/-- A borrow that lasts, with its positions and, if it is checked, with the slots in them. -/
structure Freezes (state after : State) (record kept : BorrowRecord) : Prop where
  id : kept.id = record.id
  container : kept.container = record.container
  ledgered : kept.ledgered = record.ledgered
  slots : kept.slots = record.slots
  content : record.ledgered = true → ∀ position ∈ record.slots,
    (after.content record.container)[position]? = (state.content record.container)[position]?

variable {state after : State} {record : BorrowRecord}

theorem Freezes.refl (state : State) (record : BorrowRecord) : state.Freezes state record record :=
  ⟨rfl, rfl, rfl, rfl, fun _ _ _ => rfl⟩

theorem Freezes.trans {middle : State} {between kept : BorrowRecord}
    (first : state.Freezes middle record between) (second : middle.Freezes after between kept) :
    state.Freezes after record kept where
  id := second.id.trans first.id
  container := second.container.trans first.container
  ledgered := second.ledgered.trans first.ledgered
  slots := second.slots.trans first.slots
  content := by
    intro ledgered position member
    have later := second.content (first.ledgered.trans ledgered) position (first.slots ▸ member)
    rw [first.container] at later
    exact later.trans (first.content ledgered position member)

/-- Where the content of its container is the same, a borrow that lasts is frozen. -/
theorem Freezes.of_content
    (same : after.content record.container = state.content record.container) :
    state.Freezes after record record :=
  ⟨rfl, rfl, rfl, rfl, fun _ _ _ => by rw [same]⟩

theorem content_modifyContainer {id other : ContainerId} {change : Container → Container}
    (keeps : ∀ container, (change container).content = container.content) :
    (state.modifyContainer id change).content other = state.content other := by
  rw [content, content, container?_modifyContainer]
  split
  · cases state.container? other <;> simp [keeps]
  · rfl

theorem Ends.content (ends : state.Ends after) (id : ContainerId) :
    after.content id = state.content id := by
  have same := congrArg (Option.map (·.content)) (ends.container id)
  simp only [Option.map_map, Function.comp_def] at same
  rw [State.content, State.content, same]

/-- A borrow that an insertion is not made through is frozen, unless a take overwrites it. -/
theorem freezes_insert (sound : state.Sound) {access : Access} {placement : Placement} {slot : Slot}
    (member : record ∈ state.ledger.records)
    (spares : record.container = access.container.id → record.ledgered = true →
      placement.Spares record.slots) :
    state.Freezes (state.insert access placement slot) record record := by
  by_cases onContainer : record.container = access.container.id
  · refine ⟨rfl, rfl, rfl, rfl, ?_⟩
    intro ledgered position inSlots
    obtain ⟨container, backs⟩ := sound.backed record member
    have inside := sound.inside member onContainer ledgered position inSlots
    rw [onContainer, content_insert (onContainer ▸ backs.found)]
    apply Content.getElem?_insert inside
    · rintro rfl
      exact spares onContainer ledgered position inSlots
    · rintro rfl
      exact spares onContainer ledgered inSlots
  · exact .of_content (content_insert_of_ne onContainer)

/-- A borrow below all that is removed is frozen. -/
theorem freezes_remove (sound : state.Sound) {access : Access} {removed : SlotSet}
    (member : record ∈ state.ledger.records)
    (above : record.container = access.container.id → record.ledgered = true →
      ∀ position ∈ record.slots, ∀ gone ∈ removed, position < gone) :
    state.Freezes (state.remove access removed).2 record record := by
  by_cases onContainer : record.container = access.container.id
  · refine ⟨rfl, rfl, rfl, rfl, ?_⟩
    intro ledgered position inSlots
    obtain ⟨container, backs⟩ := sound.backed record member
    rw [onContainer, content_remove (onContainer ▸ backs.found)]
    exact Content.getElem?_remove_of_lt (above onContainer ledgered position inSlots)
  · exact .of_content (content_remove_of_ne onContainer)

end State

/-- A borrow that is active after a change and older than it, and that the change is not made
through, was active before, and is frozen. -/
theorem Change.freezes {act : Act} {state after : State} (change : Change act state after)
    (sound : state.Sound) (untaken : act.takes = false) {kept : BorrowRecord}
    (active : kept ∈ after.ledger.records)
    (older : kept.id.index < state.ledger.nextId) (source : act.source ≠ some kept.id)
    (target : act.target ≠ some kept.id) :
    ∃ record ∈ state.ledger.records, state.Freezes after record kept := by
  cases change with
  | declare declared =>
      have grows := State.register_grows declared
      rw [grows.ledger] at active
      obtain ⟨container, backs⟩ := sound.backed kept active
      refine ⟨kept, active, .of_content ?_⟩
      rw [State.content_eq backs.found, State.content_eq (grows.container_kept backs.found)]
  | bind | stand | capture | enter => exact ⟨kept, active, .of_content rfl⟩
  | hold =>
      obtain ⟨record, member, rfl⟩ := Ledger.mem_records_modify active
      refine ⟨record, member, ?_⟩
      split <;> exact ⟨rfl, rfl, rfl, rfl, fun _ _ _ => rfl⟩
  | move movable =>
      refine ⟨kept, active, .of_content ?_⟩
      rw [State.content, State.markMoved, State.container?_modifyContainer,
        if_neg (movable.unborrowed kept active)]
      rfl
  | release => exact ⟨kept, active, .of_content (State.content_modifyContainer fun _ => rfl)⟩
  | exit exits =>
      obtain ⟨-, -, scope, scopes, -, ends⟩ := sound.exitScope? exits
      exact ⟨kept, (State.records_exit sound exits).2 kept active, .of_content (ends.content _)⟩
  | insert actor acts spares =>
      rw [State.records_insert sound] at active
      obtain ⟨record, member, rfl⟩ := List.mem_map.mp active
      by_cases own : some record.id = act.target
      · rw [if_pos (actor ▸ own)] at target
        exact (target own.symm).elim
      · rw [if_neg (actor ▸ own)]
        refine ⟨record, member, State.freezes_insert sound member ?_⟩
        intro onContainer ledgered
        have rival := spares record ⟨member, onContainer, ledgered, own⟩
        exact rival.resolve_right fun taken => by simp [untaken] at taken
  | remove actor acts above =>
      rw [State.records_remove sound] at active
      obtain ⟨record, member, rfl⟩ := List.mem_map.mp active
      by_cases own : some record.id = act.source
      · rw [if_pos (actor ▸ own)] at source
        exact (source own.symm).elim
      · rw [if_neg (actor ▸ own)]
        refine ⟨record, member, State.freezes_remove sound member ?_⟩
        intro onContainer ledgered
        exact above record ⟨member, onContainer, ledgered, own⟩
  | lend =>
      rw [Ledger.records_insert, List.mem_append, List.mem_singleton] at active
      rcases active with member | rfl
      · exact ⟨kept, member, .of_content rfl⟩
      · exact (Nat.lt_irrefl _ older).elim

theorem Changes.freezes {act : Act} {state after : State} (changes : Changes act state after)
    (sound : state.Sound) (untaken : act.takes = false) {kept : BorrowRecord}
    (active : kept ∈ after.ledger.records)
    (older : kept.id.index < state.ledger.nextId) (source : act.source ≠ some kept.id)
    (target : act.target ≠ some kept.id) :
    ∃ record ∈ state.ledger.records, state.Freezes after record kept := by
  induction changes generalizing kept with
  | refl => exact ⟨kept, active, .refl state kept⟩
  | tail earlier change ih =>
      have bound := Nat.lt_of_lt_of_le older (Changes.nextId_le earlier sound)
      obtain ⟨between, member, later⟩ := change.freezes (Changes.sound earlier sound) untaken active
        bound source target
      rw [later.id] at older source target
      obtain ⟨record, recordMember, first⟩ := ih member older source target
      exact ⟨record, recordMember, first.trans later⟩

/-- An operation that is not a take leaves alone every checked borrow that lasts and that none of
its bindings is a view on: the borrow keeps its positions, and every slot there its value and
key. -/
theorem Verification.borrowed_data_frozen (nodes : List Node) (node : Node)
    (untaken : node.operation.takes = false) {record kept : BorrowRecord}
    (active : record ∈ (run {} nodes).state.ledger.records) (ledgered : record.ledgered = true)
    (lasts : kept ∈ (run {} (nodes ++ [node])).state.ledger.records) (same : kept.id = record.id)
    (apart : ∀ name, node.operation.source? = some name ∨ node.operation.target? = some name →
      (run {} nodes).state.viewOf? name ≠ some record.id) :
    kept.container = record.container ∧ kept.slots = record.slots ∧
      ∀ position ∈ record.slots, ∃ slot,
        ((run {} nodes).state.content record.container)[position]? = some slot ∧
        ((run {} (nodes ++ [node])).state.content record.container)[position]? = some slot := by
  have sound := run_sound nodes
  have changes := State.perform_changes sound node.operation node.span
  rw [run_concat] at lasts ⊢
  have untouched : ∀ name?, (∀ name, name? = some name → (run {} nodes).state.viewOf? name ≠
      some record.id) → name?.bind (run {} nodes).state.viewOf? ≠ some kept.id := by
    intro name? views viewed
    obtain ⟨name, named, viewed⟩ := Option.bind_eq_some_iff.mp viewed
    exact views name named (same ▸ viewed)
  obtain ⟨old, member, frozen⟩ := changes.freezes sound untaken lasts
    (same ▸ sound.ledger.fresh record active)
    (untouched _ fun name named => apart name (.inl named))
    (untouched _ fun name named => apart name (.inr named))
  have sameRecord : old = record :=
    sound.ledger.eq_of_id_eq member active (frozen.id.symm.trans same)
  subst sameRecord
  refine ⟨frozen.container, frozen.slots, ?_⟩
  intro position inSlots
  have inside := sound.inside active rfl ledgered position inSlots
  have there := List.getElem?_eq_getElem inside
  exact ⟨_, there, (frozen.content ledgered position inSlots).trans there⟩

/-- A run that lends the lower of two slots. -/
def lending : List Node :=
  [⟨.declare "numbers" .integer none .owned, {}⟩,
    ⟨.bind "all" "numbers" none, {}⟩,
    ⟨.push "all" (.value (.integer 1)) none none, {}⟩,
    ⟨.push "all" (.value (.integer 2)) none none, {}⟩,
    ⟨.borrow "first" "all" (.range 0 0) .readOnly, {}⟩]

/-- A pop of the head leaves the borrow of the slot below it alone. -/
theorem Verification.borrowed_data_frozen_pop :
    ∃ record ∈ (run {} lending).state.ledger.records,
    ∃ kept ∈ (run {} (lending ++ [⟨.pop "all" none, {}⟩])).state.ledger.records,
      0 ∈ record.slots ∧ kept.slots = record.slots ∧ ∀ position ∈ record.slots, ∃ slot,
        ((run {} lending).state.content record.container)[position]? = some slot ∧
        ((run {} (lending ++ [⟨.pop "all" none, {}⟩])).state.content
          record.container)[position]? = some slot := by
  obtain ⟨record, active, kept, lasts, ledgered, same, covers⟩ :
      ∃ record ∈ (run {} lending).state.ledger.records,
      ∃ kept ∈ (run {} (lending ++ [⟨.pop "all" none, {}⟩])).state.ledger.records,
        record.ledgered = true ∧ kept.id = record.id ∧ record.slots.contains 0 = true := by decide
  have direct : (run {} lending).state.viewOf? "all" = none := by decide
  have frozen := borrowed_data_frozen lending ⟨.pop "all" none, {}⟩ rfl active ledgered lasts same
    (by
      rintro name (named | named)
      · rw [← Option.some.inj named, direct]
        exact (Option.some_ne_none _).symm
      · contradiction)
  exact ⟨record, active, kept, lasts, covers, frozen.2⟩

end Custody
