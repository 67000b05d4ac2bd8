import Custody.Proofs.Runs

/-!
# Exclusive borrows

Two checked borrows of one container that share a position are both read-only, unless the newer one
was taken through a view on the older one.  No change brings two borrows together that were apart:
what a view gains by an insertion or a removal lies outside all other borrows.
-/

namespace Custody

/-! ## Borrows that meet -/

/-- Two checked borrows of one container share a position, and one of them is mutable. -/
@[mk_iff] structure Ledger.Clash (ledger : Ledger) (older newer : BorrowRecord) : Prop where
  older_mem : older ∈ ledger.records
  newer_mem : newer ∈ ledger.records
  order : older.id.index < newer.id.index
  ledgered : older.ledgered = true ∧ newer.ledgered = true
  onContainer : older.container = newer.container
  meets : older.slots.intersects newer.slots = true
  writes : older.mode.isMutable = true ∨ newer.mode.isMutable = true

instance (ledger : Ledger) (older newer : BorrowRecord) : Decidable (ledger.Clash older newer) :=
  decidable_of_iff' _ (Ledger.clash_iff ..)

namespace Ledger

variable {before after : Ledger} {older newer : BorrowRecord}

/-- Borrows that keep their positions clash afterwards only if they clashed before. -/
theorem Clash.of_same
    (same : ∀ kept ∈ after.records, ∃ record ∈ before.records, record.id = kept.id ∧
      record.container = kept.container ∧ record.ledgered = kept.ledgered ∧
      record.mode = kept.mode ∧ record.slots = kept.slots)
    (clash : after.Clash older newer) :
    ∃ old new, before.Clash old new ∧ old.id = older.id ∧ new.id = newer.id := by
  obtain ⟨old, oldMember, oldId, oldContainer, oldLedgered, oldMode, oldSlots⟩ :=
    same older clash.older_mem
  obtain ⟨new, newMember, newId, newContainer, newLedgered, newMode, newSlots⟩ :=
    same newer clash.newer_mem
  refine ⟨old, new, ?_, oldId, newId⟩
  exact {
    older_mem := oldMember
    newer_mem := newMember
    order := by rw [oldId, newId]; exact clash.order
    ledgered := by rw [oldLedgered, newLedgered]; exact clash.ledgered
    onContainer := by rw [oldContainer, newContainer]; exact clash.onContainer
    meets := by rw [oldSlots, newSlots]; exact clash.meets
    writes := by rw [oldMode, newMode]; exact clash.writes }

/-- When one borrow gets other positions and gains none of its rivals', borrows clash afterwards
only if they clashed before. -/
theorem Clash.of_rebased {actor : Option RecordId} {change : BorrowRecord → SlotSet}
    (records : after.records = before.records.map fun record =>
      if some record.id = actor then { record with slots := change record } else record)
    (gains : ∀ own ∈ before.records, some own.id = actor → own.ledgered = true →
      ∀ rival, before.Rival own.container actor rival →
      ∀ position ∈ change own, position ∈ rival.slots → position ∈ own.slots)
    (clash : after.Clash older newer) :
    ∃ old new, before.Clash old new ∧ old.id = older.id ∧ new.id = newer.id := by
  obtain ⟨olderMember, newerMember, order, ledgered, onContainer, meets, writes⟩ := clash
  rw [records] at olderMember newerMember
  obtain ⟨old, oldMember, rfl⟩ := List.mem_map.mp olderMember
  obtain ⟨new, newMember, rfl⟩ := List.mem_map.mp newerMember
  obtain ⟨position, inOlder, inNewer⟩ := SlotSet.intersects_iff.mp meets
  have meet : ∀ position, position ∈ old.slots → position ∈ new.slots →
      old.slots.intersects new.slots = true :=
    fun position inOld inNew => SlotSet.intersects_iff.mpr ⟨position, inOld, inNew⟩
  by_cases oldOwn : some old.id = actor <;> by_cases newOwn : some new.id = actor
  · -- Both would be the one that changes, but their numbers differ.
    have equal : old.id = new.id := Option.some.inj (oldOwn.trans newOwn.symm)
    rw [if_pos oldOwn, if_pos newOwn] at order
    exact (Nat.ne_of_lt order (congrArg (·.index) equal)).elim
  · rw [if_pos oldOwn] at inOlder order ledgered onContainer writes ⊢
    rw [if_neg newOwn] at inNewer order ledgered onContainer writes ⊢
    have rival : before.Rival old.container actor new :=
      ⟨newMember, onContainer.symm, ledgered.2, newOwn⟩
    have inOld := gains old oldMember oldOwn ledgered.1 new rival position inOlder inNewer
    exact ⟨old, new, ⟨oldMember, newMember, order, ledgered, onContainer,
      meet position inOld inNewer, writes⟩, rfl, rfl⟩
  · rw [if_neg oldOwn] at inOlder order ledgered onContainer writes ⊢
    rw [if_pos newOwn] at inNewer order ledgered onContainer writes ⊢
    have rival : before.Rival new.container actor old :=
      ⟨oldMember, onContainer, ledgered.1, oldOwn⟩
    have inNew := gains new newMember newOwn ledgered.2 old rival position inNewer inOlder
    exact ⟨old, new, ⟨oldMember, newMember, order, ledgered, onContainer,
      meet position inOlder inNew, writes⟩, rfl, rfl⟩
  · rw [if_neg oldOwn] at inOlder order ledgered onContainer writes ⊢
    rw [if_neg newOwn] at inNewer order ledgered onContainer writes ⊢
    exact ⟨old, new, ⟨oldMember, newMember, order, ledgered, onContainer,
      meet position inOlder inNewer, writes⟩, rfl, rfl⟩

/-- A new borrow clashes with none but the one that it is taken through. -/
theorem Clash.of_insert (wf : before.WellFormed) {region : Region} {ledgered : Bool}
    {actor : Option RecordId}
    (apart : ∀ record, before.Rival region.container actor record →
      region.mode.isMutable = true ∨ record.mode.isMutable = true →
      ∀ position ∈ record.slots, position ∉ region.slots)
    (clash : (before.insert region ledgered).2.Clash older newer) :
    before.Clash older newer ∨ actor = some older.id ∧ newer.id.index = before.nextId := by
  obtain ⟨olderMember, newerMember, order, checked, onContainer, meets, writes⟩ := clash
  rw [records_insert, List.mem_append, List.mem_singleton] at olderMember newerMember
  rcases olderMember with old | rfl
  · rcases newerMember with new | rfl
    · exact .inl ⟨old, new, order, checked, onContainer, meets, writes⟩
    · refine .inr ⟨?_, rfl⟩
      by_contra other
      obtain ⟨position, inOlder, inNewer⟩ := SlotSet.intersects_iff.mp meets
      exact apart older ⟨old, onContainer, checked.1, Ne.symm other⟩ writes.symm position inOlder
        inNewer
  · -- No number is larger than the new one.
    rcases newerMember with new | rfl
    · exact (Nat.lt_asymm order (wf.fresh newer new)).elim
    · exact (Nat.lt_irrefl _ order).elim

end Ledger

/-! ## What a view gains -/

/-- A view that grows gains no position of a borrow that the insertion spares. -/
theorem Placement.mem_of_mem_grow {placement : Placement} {slots rival : SlotSet}
    {length position : Nat} (inside : ∀ position ∈ rival, position < length)
    (spares : placement.Spares rival ∨ ∃ position, placement = .replace position)
    (grown : position ∈ placement.grow length slots) (covered : position ∈ rival) :
    position ∈ slots := by
  cases placement with
  | head =>
      rcases SlotSet.mem_insert.mp grown with rfl | old
      · exact (Nat.lt_irrefl _ (inside _ covered)).elim
      · exact old
  | tail =>
      rcases spares with spares | ⟨_, replaces⟩
      · exact (spares position covered).elim
      · contradiction
  | replace _ => exact grown

/-- A view that is compacted gains no position below all that is removed. -/
theorem SlotSet.mem_of_mem_compact {slots removed : SlotSet} {position : Nat}
    (under : ∀ gone ∈ removed, position < gone) (compacted : position ∈ slots.compact removed) :
    position ∈ slots := by
  obtain ⟨old, member, -, rfl⟩ := SlotSet.mem_compact.mp compacted
  by_cases above : old - removed.below old < old
  · -- Slots from the lowest removed position on do not slide below it.
    have bound : removed.below old ≤ old - (old - removed.below old + 1) :=
      SlotSet.below_le fun gone isGone => under gone isGone
    omega
  · have same : old - removed.below old = old := by omega
    rw [same]
    exact member

/-! ## Steps and runs -/

/-- The binding that an operation takes a borrow of. -/
def Operation.lender? (operation : Operation) : Option String :=
  if operation.lends then operation.source? else none

/-- Borrows that clash after a change clashed before it, or the newer one was lent just now through
a view on the older one. -/
theorem Change.clash {act : Act} {state after : State} (change : Change act state after)
    (sound : state.Sound) {older newer : BorrowRecord}
    (clash : after.ledger.Clash older newer) :
    (∃ old new, state.ledger.Clash old new ∧ old.id = older.id ∧ new.id = newer.id) ∨
      act.lends = true ∧ act.source = some older.id ∧
        newer.id.index = state.ledger.nextId := by
  have unchanged : after.ledger = state.ledger →
      ∃ old new, state.ledger.Clash old new ∧ old.id = older.id ∧ new.id = newer.id := by
    intro same
    exact ⟨older, newer, same ▸ clash, rfl, rfl⟩
  cases change with
  | declare declared => exact .inl (unchanged (State.register_grows declared).ledger)
  | bind | stand | capture | move | release | enter => exact .inl (unchanged rfl)
  | hold =>
      refine .inl (clash.of_same ?_)
      intro kept member
      obtain ⟨record, old, rfl⟩ := Ledger.mem_records_modify member
      refine ⟨record, old, ?_⟩
      split <;> exact ⟨rfl, rfl, rfl, rfl, rfl⟩
  | exit exits =>
      refine .inl (clash.of_same fun kept member => ?_)
      exact ⟨kept, (State.records_exit sound exits).2 kept member, rfl, rfl, rfl, rfl, rfl⟩
  | insert actor acts spares =>
      refine .inl (clash.of_rebased (State.records_insert sound ..) ?_)
      intro own ownMember isOwn _ rival isRival position grown covered
      rw [acts own ownMember (actor ▸ isOwn)] at isRival
      refine Placement.mem_of_mem_grow ?_ ?_ grown covered
      · exact sound.inside isRival.member isRival.onContainer isRival.ledgered
      · exact (spares rival (actor ▸ isRival)).imp_right And.right
  | remove actor acts above =>
      refine .inl (clash.of_rebased (State.records_remove sound ..) ?_)
      intro own ownMember isOwn _ rival isRival position compacted covered
      rw [acts own ownMember (actor ▸ isOwn)] at isRival
      exact SlotSet.mem_of_mem_compact (above rival (actor ▸ isRival) position covered) compacted
  | lend lends found usable inside here apart =>
      rcases clash.of_insert sound.ledger apart with old | ⟨source, new⟩
      · exact .inl ⟨older, newer, old, rfl, rfl⟩
      · exact .inr ⟨lends, source, new⟩

theorem Changes.clash {act : Act} {state after : State} (changes : Changes act state after)
    (sound : state.Sound) {older newer : BorrowRecord}
    (clash : after.ledger.Clash older newer) :
    (∃ old new, state.ledger.Clash old new ∧ old.id = older.id ∧ new.id = newer.id) ∨
      act.lends = true ∧ act.source = some older.id ∧
        state.ledger.nextId ≤ newer.id.index := by
  induction changes generalizing older newer with
  | refl => exact .inl ⟨older, newer, clash, rfl, rfl⟩
  | tail earlier change ih =>
      rcases change.clash (Changes.sound earlier sound) clash with
        ⟨old, new, middle, sameOlder, sameNewer⟩ | ⟨lends, source, new⟩
      · rw [← sameOlder, ← sameNewer]
        exact ih middle
      · exact .inr ⟨lends, source, new ▸ Changes.nextId_le earlier sound⟩

/-- An operation takes a borrow of what a view on an older borrow reaches. -/
structure State.Reborrows (state : State) (node : Node) (older newer : RecordId) : Prop where
  through : ∃ name, node.operation.lender? = some name ∧ state.viewOf? name = some older
  absent : state.ledger.get? newer = none
  created : ((state.perform node.operation node.span).state.ledger.get? newer).isSome = true

/-- Borrows that clash after an operation clashed before it, or the operation took the newer one
through a view on the older one. -/
theorem State.clash_perform {state : State} (sound : state.Sound) (node : Node)
    {older newer : BorrowRecord}
    (clash : (state.perform node.operation node.span).state.ledger.Clash older newer) :
    (∃ old new, state.ledger.Clash old new ∧ old.id = older.id ∧ new.id = newer.id) ∨
      state.Reborrows node older.id newer.id := by
  have changes := state.perform_changes sound node.operation node.span
  refine (changes.clash sound clash).imp_right ?_
  rintro ⟨lends, source, new⟩
  obtain ⟨name, named, viewed⟩ := Option.bind_eq_some_iff.mp source
  have active := (changes.sound sound).ledger.get?_eq_some_iff.mpr ⟨clash.newer_mem, rfl⟩
  constructor
  case through =>
    have lends : node.operation.lends = true := lends
    exact ⟨name, by rw [Operation.lender?, if_pos lends]; exact named, viewed⟩
  case absent =>
    rw [Option.eq_none_iff_forall_ne_some]
    intro record found
    obtain ⟨member, sameId⟩ := Ledger.mem_of_get? found
    have fresh := sound.ledger.fresh record member
    rw [sameId] at fresh
    exact Nat.not_lt.mpr new fresh
  case created => rw [active]; rfl

theorem Verification.clash_run (nodes : List Node) {older newer : BorrowRecord}
    (clash : (run {} nodes).state.ledger.Clash older newer) :
    ∃ before node after, nodes = before ++ node :: after ∧
      (run {} before).state.Reborrows node older.id newer.id := by
  induction nodes using List.reverseRecOn generalizing older newer with
  | nil => exact absurd clash.older_mem (List.not_mem_nil)
  | append_singleton nodes node ih =>
      rw [run_concat] at clash
      rcases State.clash_perform (run_sound nodes) node clash with
        ⟨old, new, earlier, sameOlder, sameNewer⟩ | reborrows
      · obtain ⟨before, lender, after, split, reborrows⟩ := ih earlier
        rw [sameOlder, sameNewer] at reborrows
        exact ⟨before, lender, after ++ [node], by simp [split], reborrows⟩
      · exact ⟨nodes, node, [], rfl, reborrows⟩

/-- Over a whole run, two checked borrows of one container overlap with one of them mutable only if
the newer one was taken through a view on the older one.  Where no borrow is taken through a view,
all borrows that overlap are read-only. -/
theorem Verification.exclusive_borrows (nodes : List Node) :
    (∀ older newer, (run {} nodes).state.ledger.Clash older newer →
      ∃ before node after, nodes = before ++ node :: after ∧
        (run {} before).state.Reborrows node older.id newer.id) ∧
    ((∀ before node after older newer, nodes = before ++ node :: after →
        ¬(run {} before).state.Reborrows node older newer) →
      ∀ left ∈ (run {} nodes).state.ledger.records,
      ∀ right ∈ (run {} nodes).state.ledger.records, left.id ≠ right.id →
      left.ledgered = true → right.ledgered = true → left.container = right.container →
      left.slots.intersects right.slots = true →
      left.mode = .readOnly ∧ right.mode = .readOnly) := by
  refine ⟨fun older newer clash => clash_run nodes clash, ?_⟩
  intro none left leftMember right rightMember different leftLedgered rightLedgered onContainer
    meets
  have apart : ∀ {older newer}, ¬(run {} nodes).state.ledger.Clash older newer := by
    intro older newer clash
    obtain ⟨before, node, after, split, reborrows⟩ := clash_run nodes clash
    exact none before node after _ _ split reborrows
  have readOnly : ¬(left.mode.isMutable = true ∨ right.mode.isMutable = true) := by
    intro writes
    rcases Nat.lt_trichotomy left.id.index right.id.index with lower | same | higher
    · exact apart ⟨leftMember, rightMember, lower, ⟨leftLedgered, rightLedgered⟩, onContainer,
        meets, writes⟩
    · exact different (congrArg RecordId.mk same)
    · exact apart ⟨rightMember, leftMember, higher, ⟨rightLedgered, leftLedgered⟩,
        onContainer.symm, by rwa [SlotSet.intersects_comm], writes.symm⟩
  cases leftMode : left.mode <;> cases rightMode : right.mode <;>
    simp_all [BorrowMode.isMutable]

/-- A run that lends the head of a mutable view once more. -/
def reborrowing : List Node :=
  [⟨.declare "numbers" .integer none .owned, {}⟩,
    ⟨.bind "all" "numbers" none, {}⟩,
    ⟨.push "all" (.value (.integer 1)) none none, {}⟩,
    ⟨.push "all" (.value (.integer 2)) none none, {}⟩,
    ⟨.borrow "both" "all" (.range 0 1) .mutable, {}⟩,
    ⟨.borrow "last" "both" (.range 1 1) .mutable, {}⟩]

/-- A run that lends a slot twice to be read, and never through a view. -/
def sharing : List Node :=
  [⟨.declare "numbers" .integer none .owned, {}⟩,
    ⟨.bind "all" "numbers" none, {}⟩,
    ⟨.push "all" (.value (.integer 1)) none none, {}⟩,
    ⟨.borrow "one" "all" (.range 0 0) .readOnly, {}⟩,
    ⟨.borrow "two" "all" (.range 0 0) .readOnly, {}⟩]

theorem Verification.exclusive_borrows_reborrowing :
    (∃ older newer, (run {} reborrowing).state.ledger.Clash older newer ∧
      ∃ before node after, reborrowing = before ++ node :: after ∧
        (run {} before).state.Reborrows node older.id newer.id) ∧
    ∃ left ∈ (run {} sharing).state.ledger.records,
      ∃ right ∈ (run {} sharing).state.ledger.records, left.id ≠ right.id ∧
        left.slots.intersects right.slots = true ∧
        left.mode = .readOnly ∧ right.mode = .readOnly := by
  refine ⟨?_, ?_⟩
  · obtain ⟨older, -, newer, -, clash⟩ :
        ∃ older ∈ (run {} reborrowing).state.ledger.records,
        ∃ newer ∈ (run {} reborrowing).state.ledger.records,
          (run {} reborrowing).state.ledger.Clash older newer := by decide
    exact ⟨older, newer, clash, (exclusive_borrows reborrowing).1 older newer clash⟩
  · have direct : ∀ index < sharing.length, ∀ node ∈ sharing[index]?,
        node.operation.lender?.bind (run {} (sharing.take index)).state.viewOf? = none := by
      decide
    have none : ∀ before node after older newer, sharing = before ++ node :: after →
        ¬(run {} before).state.Reborrows node older newer := by
      intro before node after older newer split reborrows
      obtain ⟨name, lends, viewed⟩ := reborrows.through
      have unviewed := direct before.length (by simp [split]) node (by simp [split])
      rw [lends, split, List.take_left, Option.bind_some, viewed] at unviewed
      contradiction
    obtain ⟨left, leftMember, right, rightMember, different, leftLedgered, rightLedgered,
        onContainer, meets⟩ :
        ∃ left ∈ (run {} sharing).state.ledger.records,
        ∃ right ∈ (run {} sharing).state.ledger.records, left.id ≠ right.id ∧
          left.ledgered = true ∧ right.ledgered = true ∧ left.container = right.container ∧
          left.slots.intersects right.slots = true := by decide
    exact ⟨left, leftMember, right, rightMember, different, meets,
      (exclusive_borrows sharing).2 none left leftMember right rightMember different leftLedgered
        rightLedgered onContainer meets⟩

end Custody
