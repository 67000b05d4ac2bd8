import Mathlib.Data.List.Nodup
import Custody.Ledger
import Custody.Proofs.Positions

/-!
# The ledger and its counts

The page that the ledger keeps for each container lists the active records on it, and the borrowed
positions there are those of these records.  Hence the checks of reads and writes, which look at
the counts first and then look the listed records up, decide exactly whether some record stands in
the way.
-/

namespace Custody

namespace Occupancy

theorem mem_foldl_add_borrowed {records : List BorrowRecord} {start : Occupancy} {position : Nat} :
    position ∈ (records.foldl (fun all record => all.add record.mode record.slots) start).borrowed ↔
      position ∈ start.borrowed ∨ ∃ record ∈ records, position ∈ record.slots := by
  induction records generalizing start with
  | nil => simp
  | cons first rest ih =>
      rw [List.foldl_cons, ih]
      simp [add, or_assoc]

theorem mem_foldl_add_mutable {records : List BorrowRecord} {start : Occupancy} {position : Nat} :
    position ∈ (records.foldl (fun all record => all.add record.mode record.slots) start).mutable ↔
      position ∈ start.mutable ∨
        ∃ record ∈ records, record.mode.isMutable = true ∧ position ∈ record.slots := by
  induction records generalizing start with
  | nil => simp
  | cons first rest ih =>
      rw [List.foldl_cons, ih]
      simp only [add, List.exists_mem_cons_iff]
      split
      · rename_i writes
        simp [writes, or_assoc]
      · rename_i reads
        simp [reads]

theorem mem_borrowed_ofRecords {records : List BorrowRecord} {position : Nat} :
    position ∈ (ofRecords records).borrowed ↔
      ∃ record ∈ records, record.ledgered = true ∧ position ∈ record.slots := by
  simp [ofRecords, mem_foldl_add_borrowed, and_assoc]

theorem mem_mutable_ofRecords {records : List BorrowRecord} {position : Nat} :
    position ∈ (ofRecords records).mutable ↔
      ∃ record ∈ records, record.ledgered = true ∧ record.mode.isMutable = true ∧
        position ∈ record.slots := by
  simp [ofRecords, mem_foldl_add_mutable, and_assoc]

theorem ofRecords_append (records : List BorrowRecord) (record : BorrowRecord) :
    ofRecords (records ++ [record]) =
      if record.ledgered then (ofRecords records).add record.mode record.slots
      else ofRecords records := by
  simp only [ofRecords, List.filter_append, List.foldl_append]
  split <;> simp_all

/-- The counts look at the mode and the positions of checked records only. -/
theorem ofRecords_map {records : List BorrowRecord} {change : BorrowRecord → BorrowRecord}
    (keeps : ∀ record ∈ records, (change record).ledgered = record.ledgered ∧
      (change record).mode = record.mode ∧ (change record).slots = record.slots) :
    ofRecords (records.map change) = ofRecords records := by
  simp only [ofRecords]
  generalize ({} : Occupancy) = start
  induction records generalizing start with
  | nil => rfl
  | cons first rest ih =>
      obtain ⟨sameLedgered, sameMode, sameSlots⟩ := keeps first (by simp)
      have restKeeps := fun record member => keeps record (List.mem_cons_of_mem first member)
      simp only [List.map_cons, List.filter_cons, sameLedgered]
      split
      · simp only [List.foldl_cons, sameMode, sameSlots]
        exact ih restKeeps _
      · exact ih restKeeps start

end Occupancy

namespace Ledger

/-- The active borrows of a container, taken from all records. -/
def listing (ledger : Ledger) (container : ContainerId) : List BorrowRecord :=
  ledger.records.filter (·.container = container)

theorem mem_listing {ledger : Ledger} {container : ContainerId} {record : BorrowRecord} :
    record ∈ ledger.listing container ↔
      record ∈ ledger.records ∧ record.container = container := by
  simp [listing]

/-- Records stand in the order of their numbers. -/
def Ascending (ledger : Ledger) : Prop :=
  ledger.records.Pairwise fun earlier later => earlier.id.index < later.id.index

/-- Records stand in the order of their numbers, and each page lists and counts the records of its
container. -/
structure WellFormed (ledger : Ledger) : Prop where
  ascending : ledger.Ascending
  fresh : ∀ record ∈ ledger.records, record.id.index < ledger.nextId
  listed : ∀ container,
    (ledger.page container).records = (ledger.listing container).map (·.id)
  counted : ∀ container,
    (ledger.page container).toOccupancy = .ofRecords (ledger.listing container)

theorem empty_wellFormed : ({} : Ledger).WellFormed where
  ascending := .nil
  fresh := by simp
  listed := fun _ => rfl
  counted := fun _ => rfl

theorem Ascending.ids_nodup {ledger : Ledger} (ascending : ledger.Ascending) :
    (ledger.records.map (·.id)).Nodup := by
  refine List.pairwise_map.mpr (ascending.imp ?_)
  intro earlier later lower equal
  rw [equal] at lower
  exact Nat.lt_irrefl _ lower

theorem Ascending.eq_of_id_eq {ledger : Ledger} (ascending : ledger.Ascending)
    {left right : BorrowRecord} (leftMember : left ∈ ledger.records)
    (rightMember : right ∈ ledger.records) (same : left.id = right.id) : left = right :=
  List.inj_on_of_nodup_map ascending.ids_nodup leftMember rightMember same

theorem mem_of_get? {ledger : Ledger} {id : RecordId} {record : BorrowRecord}
    (found : ledger.get? id = some record) : record ∈ ledger.records ∧ record.id = id :=
  ⟨List.mem_of_find?_eq_some found, by simpa using List.find?_some found⟩

theorem Ascending.get?_id {ledger : Ledger} (ascending : ledger.Ascending) {record : BorrowRecord}
    (member : record ∈ ledger.records) : ledger.get? record.id = some record := by
  cases found : ledger.get? record.id with
  | none =>
      have absent := List.find?_eq_none.mp found record member
      simp at absent
  | some other =>
      obtain ⟨otherMember, sameId⟩ := mem_of_get? found
      rw [ascending.eq_of_id_eq otherMember member sameId]

/-- Looking up the identities that a page lists yields the records of its container. -/
theorem Ascending.recordsOn_eq {ledger : Ledger} (ascending : ledger.Ascending)
    {container : ContainerId}
    (listed : (ledger.page container).records = (ledger.listing container).map (·.id)) :
    ledger.recordsOn container = ledger.listing container := by
  rw [recordsOn, listed, List.filterMap_map]
  have found : ∀ record ∈ ledger.listing container,
      (ledger.get? ∘ (·.id)) record = some record := by
    intro record member
    exact ascending.get?_id (mem_listing.mp member).1
  rw [List.filterMap_congr found, List.filterMap_some]

/-- A record that is found on a container is active. -/
theorem mem_records_of_mem_recordsOn {ledger : Ledger} {container : ContainerId}
    {record : BorrowRecord} (member : record ∈ ledger.recordsOn container) :
    record ∈ ledger.records := by
  obtain ⟨id, -, found⟩ := List.mem_filterMap.mp member
  exact (mem_of_get? found).1

namespace WellFormed

variable {ledger : Ledger} (wf : ledger.WellFormed)

include wf

theorem eq_of_id_eq {left right : BorrowRecord} (leftMember : left ∈ ledger.records)
    (rightMember : right ∈ ledger.records) (same : left.id = right.id) : left = right :=
  wf.ascending.eq_of_id_eq leftMember rightMember same

theorem get?_eq_some_iff {id : RecordId} {record : BorrowRecord} :
    ledger.get? id = some record ↔ record ∈ ledger.records ∧ record.id = id := by
  constructor
  · exact mem_of_get?
  · rintro ⟨member, rfl⟩
    exact wf.ascending.get?_id member

/-- The records that the pages list and those among all records are the same. -/
theorem recordsOn_eq_listing (container : ContainerId) :
    ledger.recordsOn container = ledger.listing container :=
  wf.ascending.recordsOn_eq (wf.listed container)

theorem mem_recordsOn {container : ContainerId} {record : BorrowRecord} :
    record ∈ ledger.recordsOn container ↔
      record ∈ ledger.records ∧ record.container = container := by
  rw [wf.recordsOn_eq_listing, mem_listing]

/-- A page is what the records of its container make it. -/
theorem page_eq (container : ContainerId) :
    ledger.page container =
      { toOccupancy := .ofRecords (ledger.listing container)
        records := (ledger.listing container).map (·.id) } := by
  rw [← wf.counted container, ← wf.listed container]

/-- A container with a record has a page. -/
theorem page_ne_none {record : BorrowRecord} (member : record ∈ ledger.records) :
    ledger.pages.get? record.container ≠ none := by
  intro absent
  have none : ledger.page record.container = {} := by rw [page, absent, Option.getD_none]
  have listed := wf.listed record.container
  rw [none] at listed
  have empty := List.map_eq_nil_iff.mp listed.symm
  exact List.not_mem_nil (empty ▸ mem_listing.mpr ⟨member, rfl⟩)

end WellFormed

/-! ## Checks -/

/-- A checked borrow of a container other than the one that an actor acts through. -/
@[mk_iff] structure Rival (ledger : Ledger) (container : ContainerId) (actor : Option RecordId)
    (record : BorrowRecord) : Prop where
  member : record ∈ ledger.records
  onContainer : record.container = container
  ledgered : record.ledgered = true
  other : some record.id ≠ actor

instance (ledger : Ledger) (container : ContainerId) (actor : Option RecordId)
    (record : BorrowRecord) : Decidable (ledger.Rival container actor record) :=
  decidable_of_iff' _ (rival_iff ..)

theorem WellFormed.firstConflict_eq_ok {ledger : Ledger} (wf : ledger.WellFormed)
    {container : ContainerId} {footprint : SlotSet}
    {except : Option RecordId} {mutableOnly : Bool} :
    ledger.firstConflict container footprint except mutableOnly = .ok () ↔
      ∀ record, ledger.Rival container except record →
        (mutableOnly = true → record.mode.isMutable = true) →
        ∀ position ∈ record.slots, position ∉ footprint := by
  simp only [firstConflict]
  split
  · rename_i record found
    have member := wf.mem_recordsOn.mp (List.mem_of_find?_eq_some found)
    have blocks := List.find?_some found
    simp only [Bool.and_eq_true, decide_eq_true_eq, Bool.or_eq_true, Bool.not_eq_true',
      SlotSet.intersects_iff] at blocks
    obtain ⟨⟨⟨other, ledgered⟩, mode⟩, position, inSlots, inFootprint⟩ := blocks
    simp only [reduceCtorEq, false_iff]
    intro clear
    refine clear record ⟨member.1, member.2, ledgered, other⟩ ?_ position inSlots inFootprint
    intro only
    simpa [only] using mode
  · rename_i none
    simp only [true_iff]
    intro record rival mode position inSlots inFootprint
    have passes := List.find?_eq_none.mp none record
      (wf.mem_recordsOn.mpr ⟨rival.member, rival.onContainer⟩)
    apply passes
    simp only [Bool.and_eq_true, decide_eq_true_eq, Bool.or_eq_true, Bool.not_eq_true',
      SlotSet.intersects_iff]
    refine ⟨⟨⟨rival.other, rival.ledgered⟩, ?_⟩, position, inSlots, inFootprint⟩
    cases mutableOnly with
    | false => exact .inl rfl
    | true => exact .inr (mode rfl)

/-- A write is let through exactly when no rival covers what it touches. -/
theorem WellFormed.checkWrite_eq_ok {ledger : Ledger} (wf : ledger.WellFormed)
    {container : ContainerId} {footprint : SlotSet} {except : Option RecordId} :
    ledger.checkWrite container footprint except = .ok () ↔
      ∀ record, ledger.Rival container except record →
        ∀ position ∈ record.slots, position ∉ footprint := by
  unfold checkWrite
  split
  · rw [wf.firstConflict_eq_ok]
    simp
  · rename_i disjoint
    rw [Bool.not_eq_true, SlotSet.intersects_eq_false, wf.counted] at disjoint
    simp only [true_iff]
    intro record rival position inSlots
    apply disjoint
    rw [Occupancy.mem_borrowed_ofRecords]
    exact ⟨record, mem_listing.mpr ⟨rival.member, rival.onContainer⟩, rival.ledgered, inSlots⟩

/-- A read is let through exactly when no mutable rival covers what it touches. -/
theorem WellFormed.checkRead_eq_ok {ledger : Ledger} (wf : ledger.WellFormed)
    {container : ContainerId} {footprint : SlotSet} {except : Option RecordId} :
    ledger.checkRead container footprint except = .ok () ↔
      ∀ record, ledger.Rival container except record → record.mode.isMutable = true →
        ∀ position ∈ record.slots, position ∉ footprint := by
  unfold checkRead
  split
  · rw [wf.firstConflict_eq_ok]
    simp
  · rename_i disjoint
    rw [Bool.not_eq_true, SlotSet.intersects_eq_false, wf.counted] at disjoint
    simp only [true_iff]
    intro record rival writes position inSlots
    apply disjoint
    rw [Occupancy.mem_mutable_ofRecords]
    exact ⟨record, mem_listing.mpr ⟨rival.member, rival.onContainer⟩, rival.ledgered, writes,
      inSlots⟩

/-! ## Changes of records -/

theorem page_setPage (ledger : Ledger) (container other : ContainerId) (page : Page) :
    (ledger.setPage container page).page other =
      if other = container then page else ledger.page other := by
  simp only [setPage, Ledger.page, Table.get?_insert]
  split <;> rfl

@[simp] theorem records_modifyPage (ledger : Ledger) (container : ContainerId)
    (change : Page → Page) : (ledger.modifyPage container change).records = ledger.records := by
  unfold modifyPage
  split <;> rfl

@[simp] theorem nextId_modifyPage (ledger : Ledger) (container : ContainerId)
    (change : Page → Page) : (ledger.modifyPage container change).nextId = ledger.nextId := by
  unfold modifyPage
  split <;> rfl

/-- A change that leaves the empty page alone may be made as if every container had a page. -/
theorem page_modifyPage {ledger : Ledger} {container : ContainerId} {change : Page → Page}
    (empty : ledger.pages.get? container = none → change {} = {}) (other : ContainerId) :
    (ledger.modifyPage container change).page other =
      if other = container then change (ledger.page container) else ledger.page other := by
  unfold modifyPage
  split
  · next page found =>
    have there : ledger.page container = page := by rw [Ledger.page, found, Option.getD_some]
    rw [page_setPage, there]
  · next absent =>
    split
    · next same =>
      have none : ledger.page container = {} := by rw [page, absent, Option.getD_none]
      rw [same, none, empty absent]
    · rfl

theorem page_recount (ledger : Ledger) (container other : ContainerId) :
    (ledger.recount container).page other =
      if other = container then
        { ledger.page container with toOccupancy := .ofRecords (ledger.recordsOn container) }
      else ledger.page other := by
  apply page_modifyPage
  intro absent
  have none : ledger.recordsOn container = [] := by
    rw [recordsOn, page, absent, Option.getD_none, List.filterMap_nil]
  rw [none]
  rfl

/-- Once the pages list the records, it is enough to count those of one container whose page may
be out of date. -/
theorem recount_wellFormed {ledger : Ledger} {container : ContainerId}
    (ascending : ledger.Ascending)
    (fresh : ∀ record ∈ ledger.records, record.id.index < ledger.nextId)
    (listed : ∀ other, (ledger.page other).records = (ledger.listing other).map (·.id))
    (counted : ∀ other, other ≠ container →
      (ledger.page other).toOccupancy = .ofRecords (ledger.listing other)) :
    (ledger.recount container).WellFormed := by
  have records : (ledger.recount container).records = ledger.records := records_modifyPage ..
  have listing (other : ContainerId) :
      (ledger.recount container).listing other = ledger.listing other := by
    rw [Ledger.listing, records, Ledger.listing]
  constructor
  case ascending =>
    rw [Ascending, records]
    exact ascending
  case fresh =>
    rw [records, recount, nextId_modifyPage]
    exact fresh
  case listed =>
    intro other
    rw [listing, page_recount]
    split
    · next same => rw [same, listed]
    · exact listed other
  case counted =>
    intro other
    rw [listing, page_recount]
    split
    · next same => rw [same, ascending.recordsOn_eq (listed container)]
    · next different => exact counted other different

@[simp] theorem records_insert (ledger : Ledger) (region : Region) (ledgered : Bool) :
    (ledger.insert region ledgered).2.records =
      ledger.records ++ [{ region with id := ⟨ledger.nextId⟩, ledgered }] := rfl

@[simp] theorem nextId_insert (ledger : Ledger) (region : Region) (ledgered : Bool) :
    (ledger.insert region ledgered).2.nextId = ledger.nextId + 1 := rfl

theorem page_insert (ledger : Ledger) (region : Region) (ledgered : Bool)
    (container : ContainerId) :
    (ledger.insert region ledgered).2.page container =
      if container = region.container then
        { toOccupancy :=
            if ledgered then (ledger.page container).add region.mode region.slots
            else (ledger.page container).toOccupancy
          records := (ledger.page container).records ++ [⟨ledger.nextId⟩] }
      else ledger.page container := by
  refine (page_setPage ..).trans ?_
  split
  · next same => rw [same]
  · rfl

theorem listing_insert (ledger : Ledger) (region : Region) (ledgered : Bool)
    (container : ContainerId) :
    (ledger.insert region ledgered).2.listing container =
      if container = region.container then
        ledger.listing container ++ [{ region with id := ⟨ledger.nextId⟩, ledgered }]
      else ledger.listing container := by
  by_cases same : container = region.container
  · simp [listing, same]
  · simp [listing, same, Ne.symm same]

theorem insert_wellFormed {ledger : Ledger} (wf : ledger.WellFormed) (region : Region)
    (ledgered : Bool) : (ledger.insert region ledgered).2.WellFormed where
  ascending := by
    rw [Ascending, records_insert, List.pairwise_append]
    refine ⟨wf.ascending, List.pairwise_singleton _ _, ?_⟩
    intro earlier member later last
    rw [List.mem_singleton.mp last]
    exact wf.fresh earlier member
  fresh := by
    intro record member
    rw [records_insert, List.mem_append, List.mem_singleton] at member
    rw [nextId_insert]
    rcases member with old | rfl
    · exact Nat.lt_succ_of_lt (wf.fresh record old)
    · exact Nat.lt_succ_self _
  listed := by
    intro container
    rw [page_insert, listing_insert]
    split
    · rw [wf.listed, List.map_append, List.map_singleton]
    · exact wf.listed container
  counted := by
    intro container
    rw [page_insert, listing_insert]
    split
    · rw [Occupancy.ofRecords_append, wf.counted]
    · exact wf.counted container

@[simp] theorem records_modify (ledger : Ledger) (id : RecordId)
    (change : BorrowRecord → BorrowRecord) :
    (ledger.modify id change).records =
      ledger.records.map fun record => if record.id = id then change record else record := rfl

theorem mem_records_modify {ledger : Ledger} {id : RecordId} {change : BorrowRecord → BorrowRecord}
    {record : BorrowRecord} (member : record ∈ (ledger.modify id change).records) :
    ∃ old ∈ ledger.records, record = if old.id = id then change old else old := by
  obtain ⟨old, oldMember, rfl⟩ := List.mem_map.mp member
  exact ⟨old, oldMember, rfl⟩

theorem listing_modify {ledger : Ledger} {id : RecordId} {change : BorrowRecord → BorrowRecord}
    (keeps : ∀ record, (change record).container = record.container) (container : ContainerId) :
    (ledger.modify id change).listing container =
      (ledger.listing container).map fun record =>
        if record.id = id then change record else record := by
  rw [listing, records_modify, List.filter_map, listing]
  congr 1
  apply List.filter_congr
  intro record _
  simp only [Function.comp_apply]
  split <;> simp [keeps]

private theorem ascending_modify {ledger : Ledger} (wf : ledger.WellFormed) {id : RecordId}
    {change : BorrowRecord → BorrowRecord} (keeps : ∀ record, (change record).id = record.id) :
    (ledger.modify id change).Ascending := by
  rw [Ascending, records_modify, List.pairwise_map]
  apply wf.ascending.imp
  intro earlier later lower
  split <;> split <;> simpa [keeps] using lower

private theorem fresh_modify {ledger : Ledger} (wf : ledger.WellFormed) {id : RecordId}
    {change : BorrowRecord → BorrowRecord} (keeps : ∀ record, (change record).id = record.id) :
    ∀ record ∈ (ledger.modify id change).records, record.id.index < ledger.nextId := by
  intro record member
  obtain ⟨old, oldMember, rfl⟩ := mem_records_modify member
  have bound := wf.fresh old oldMember
  split
  · rw [keeps]
    exact bound
  · exact bound

private theorem listed_modify {ledger : Ledger} (wf : ledger.WellFormed) {id : RecordId}
    {change : BorrowRecord → BorrowRecord} (keepsId : ∀ record, (change record).id = record.id)
    (keeps : ∀ record, (change record).container = record.container) (container : ContainerId) :
    ((ledger.modify id change).page container).records =
      ((ledger.modify id change).listing container).map (·.id) := by
  refine (wf.listed container).trans ?_
  rw [listing_modify keeps, List.map_map]
  apply List.map_congr_left
  intro record _
  simp only [Function.comp_apply]
  split
  · rw [keepsId]
  · rfl

theorem setHolder_wellFormed {ledger : Ledger} (wf : ledger.WellFormed) (id : RecordId)
    (holder : BindingId) : (ledger.setHolder id holder).WellFormed where
  ascending := ascending_modify wf fun _ => rfl
  fresh := fresh_modify wf fun _ => rfl
  listed := listed_modify wf (fun _ => rfl) fun _ => rfl
  counted := by
    intro container
    rw [setHolder, listing_modify (by intro; rfl), Occupancy.ofRecords_map]
    · exact wf.counted container
    · intro record _
      split <;> exact ⟨rfl, rfl, rfl⟩

private theorem map_eq_self {records : List BorrowRecord} {change : BorrowRecord → BorrowRecord}
    (keeps : ∀ record ∈ records, change record = record) : records.map change = records :=
  (List.map_congr_left keeps).trans (List.map_id' records)

/-- A record keeps all but its positions when it is rebased, and the others keep these too. -/
theorem records_rebase (ledger : Ledger) (id : RecordId) (slots : SlotSet) :
    (ledger.rebase id slots).records =
      ledger.records.map fun record =>
        if record.id = id then { record with slots } else record := by
  unfold rebase
  split
  · exact records_modifyPage ..
  · rename_i absent
    symm
    apply map_eq_self
    intro record member
    have different := List.find?_eq_none.mp absent record member
    rw [if_neg (by simpa using different)]

@[simp] theorem nextId_rebase (ledger : Ledger) (id : RecordId) (slots : SlotSet) :
    (ledger.rebase id slots).nextId = ledger.nextId := by
  unfold rebase
  split
  · exact nextId_modifyPage ..
  · rfl

/-- A record that changes does not show on a container that it is not on. -/
theorem WellFormed.listing_modify_of_ne {ledger : Ledger} (wf : ledger.WellFormed)
    {record : BorrowRecord} (member : record ∈ ledger.records) {container : ContainerId}
    (different : container ≠ record.container) {change : BorrowRecord → BorrowRecord}
    (keeps : ∀ record, (change record).container = record.container) :
    (ledger.modify record.id change).listing container = ledger.listing container := by
  rw [listing_modify keeps]
  apply map_eq_self
  intro other otherMember
  rw [mem_listing] at otherMember
  rw [if_neg]
  intro equal
  apply different
  rw [← otherMember.2, wf.eq_of_id_eq otherMember.1 member equal]

theorem rebase_wellFormed {ledger : Ledger} (wf : ledger.WellFormed) (id : RecordId)
    (slots : SlotSet) : (ledger.rebase id slots).WellFormed := by
  unfold rebase
  split
  · rename_i record found
    obtain ⟨member, rfl⟩ := mem_of_get? found
    apply recount_wellFormed
    · exact ascending_modify wf fun _ => rfl
    · exact fresh_modify wf fun _ => rfl
    · exact listed_modify wf (fun _ => rfl) fun _ => rfl
    · intro other different
      rw [wf.listing_modify_of_ne member different (by intro; rfl)]
      exact wf.counted other
  · exact wf

/-! ## Ends of borrows -/

theorem records_release (ledger : Ledger) (id : RecordId) :
    (ledger.release id).2.records = ledger.records.filter (·.id ≠ id) := by
  unfold release
  split
  · simp only [recount, records_modifyPage]
  · rename_i absent
    symm
    apply List.filter_eq_self.mpr
    intro record member
    have different := List.find?_eq_none.mp absent record member
    simpa using different

theorem nextId_release (ledger : Ledger) (id : RecordId) :
    (ledger.release id).2.nextId = ledger.nextId := by
  unfold release
  split
  · simp only [recount, nextId_modifyPage]
  · rfl

/-- What is left of a container's records once one of them is gone. -/
private theorem map_id_filter (records : List BorrowRecord) (container : ContainerId)
    (id : RecordId) :
    ((records.filter (·.container = container)).map (·.id)).filter (· ≠ id) =
      ((records.filter (·.id ≠ id)).filter (·.container = container)).map (·.id) := by
  rw [List.filter_map, List.filter_filter, List.filter_filter]
  simp only [Function.comp_def, Bool.and_comm]

/-- A record that is gone does not show on a container that it was not on. -/
theorem WellFormed.filter_of_ne {ledger : Ledger} (wf : ledger.WellFormed)
    {record : BorrowRecord} (member : record ∈ ledger.records) {container : ContainerId}
    (different : container ≠ record.container) :
    (ledger.records.filter (·.id ≠ record.id)).filter (·.container = container) =
      ledger.listing container := by
  rw [List.filter_filter, listing]
  apply List.filter_congr
  intro other otherMember
  by_cases onContainer : other.container = container
  · have kept : other.id ≠ record.id := by
      intro equal
      apply different
      rw [← onContainer, wf.eq_of_id_eq otherMember member equal]
    simp [onContainer, kept]
  · simp [onContainer]

theorem release_wellFormed {ledger : Ledger} (wf : ledger.WellFormed) (id : RecordId) :
    (ledger.release id).2.WellFormed := by
  unfold release
  split
  · next record found =>
    obtain ⟨member, rfl⟩ := mem_of_get? found
    apply recount_wellFormed
    · rw [Ascending, records_modifyPage]
      exact wf.ascending.filter _
    · rw [records_modifyPage, nextId_modifyPage]
      exact fun other kept => wf.fresh other (List.mem_of_mem_filter kept)
    · intro other
      rw [listing, records_modifyPage, page_modifyPage fun _ => rfl]
      split
      · next same =>
        rw [same, ← map_id_filter]
        exact congrArg (List.filter _) (wf.listed record.container)
      · next different =>
        rw [wf.filter_of_ne member different]
        exact wf.listed other
    · intro other different
      rw [listing, records_modifyPage, page_modifyPage fun _ => rfl, if_neg different,
        wf.filter_of_ne member different]
      exact wf.counted other
  · exact wf

theorem releaseAll_wellFormed {ledger : Ledger} (wf : ledger.WellFormed) (ids : List RecordId) :
    (releaseAll ids ledger).2.WellFormed := by
  induction ids generalizing ledger with
  | nil => exact wf
  | cons id rest ih => exact ih (release_wellFormed wf id)

theorem records_releaseAll (ledger : Ledger) (ids : List RecordId) :
    (releaseAll ids ledger).2.records = ledger.records.filter (·.id ∉ ids) := by
  induction ids generalizing ledger with
  | nil => simp [releaseAll]
  | cons id rest ih =>
      simp only [releaseAll, ih, records_release, List.filter_filter]
      apply List.filter_congr
      intro record _
      simp [Bool.and_comm]

theorem nextId_releaseAll (ledger : Ledger) (ids : List RecordId) :
    (releaseAll ids ledger).2.nextId = ledger.nextId := by
  induction ids generalizing ledger with
  | nil => rfl
  | cons id rest ih => simp only [releaseAll, ih, nextId_release]

theorem mem_of_released {ledger : Ledger} {id : RecordId} {record : BorrowRecord}
    (released : (ledger.release id).1 = some record) :
    record ∈ ledger.records ∧ record.id = id := by
  unfold release at released
  split at released
  · rename_i found lookup
    simp only [Option.some.injEq] at released
    subst released
    exact mem_of_get? lookup
  · simp at released

theorem mem_of_releasedAll {ledger : Ledger} {ids : List RecordId} {record : BorrowRecord}
    (released : record ∈ (releaseAll ids ledger).1) :
    record ∈ ledger.records ∧ record.id ∈ ids := by
  induction ids generalizing ledger with
  | nil => simp [releaseAll] at released
  | cons id rest ih =>
      simp only [releaseAll, List.mem_append, Option.mem_toList] at released
      rcases released with first | later
      · obtain ⟨member, rfl⟩ := mem_of_released first
        exact ⟨member, by simp⟩
      · obtain ⟨member, listed⟩ := ih later
        rw [records_release, List.mem_filter] at member
        exact ⟨member.1, List.mem_cons_of_mem _ listed⟩

theorem releaseScope_wellFormed {ledger : Ledger} (wf : ledger.WellFormed) (scope : ScopeId) :
    (ledger.releaseScope scope).2.WellFormed :=
  releaseAll_wellFormed wf _

theorem nextId_releaseScope (ledger : Ledger) (scope : ScopeId) :
    (ledger.releaseScope scope).2.nextId = ledger.nextId :=
  nextId_releaseAll ..

/-- The records that a scope owns, by their numbers. -/
private theorem owned_iff {ledger : Ledger} (wf : ledger.WellFormed) {scope : ScopeId}
    {record : BorrowRecord} (member : record ∈ ledger.records) :
    record.id ∈ (ledger.records.filter (·.scope = scope)).map (·.id) ↔ record.scope = scope := by
  simp only [List.mem_map, List.mem_filter, decide_eq_true_eq]
  constructor
  · rintro ⟨other, ⟨otherMember, owned⟩, sameId⟩
    rw [← wf.eq_of_id_eq otherMember member sameId]
    exact owned
  · intro owned
    exact ⟨record, ⟨member, owned⟩, rfl⟩

/-- What the exit of a scope leaves are the records of other scopes, in their order. -/
theorem records_releaseScope {ledger : Ledger} (wf : ledger.WellFormed) (scope : ScopeId) :
    (ledger.releaseScope scope).2.records = ledger.records.filter (·.scope ≠ scope) := by
  rw [releaseScope, records_releaseAll]
  apply List.filter_congr
  intro record member
  rw [decide_eq_decide, owned_iff wf member]

/-- The exit of a scope ends its own records and no others. -/
theorem mem_records_releaseScope {ledger : Ledger} (wf : ledger.WellFormed) {scope : ScopeId}
    {record : BorrowRecord} :
    record ∈ (ledger.releaseScope scope).2.records ↔
      record ∈ ledger.records ∧ record.scope ≠ scope := by
  rw [releaseScope, records_releaseAll, List.mem_filter, decide_eq_true_eq]
  apply and_congr_right
  intro member
  rw [owned_iff wf member]

theorem scope_of_released {ledger : Ledger} (wf : ledger.WellFormed) {scope : ScopeId}
    {record : BorrowRecord} (released : record ∈ (ledger.releaseScope scope).1) :
    record ∈ ledger.records ∧ record.scope = scope := by
  obtain ⟨member, listed⟩ := mem_of_releasedAll released
  exact ⟨member, (owned_iff wf member).mp listed⟩

end Ledger

end Custody
