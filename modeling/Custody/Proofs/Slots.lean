import Custody.Proofs.Positions
import Custody.Verifier.Insertion

/-!
# Slots after insertions and removals

Where each slot of a container stands once slots have been removed or inserted.  A removal moves a
kept slot down by the number of removed positions below it, which is how sets of positions are
compacted; an insertion at the head moves nothing, one at the tail moves everything up by one, and
a replacement touches its own position only.  So the slots at a set of positions can be followed
through removals and insertions.
-/

namespace Custody.Content

/-! ## Slots at positions -/

/-- The slots at some positions, in the order of the positions. -/
def slotsAt (content : Content) (positions : List Nat) : Content :=
  positions.filterMap fun position => content[position]?

theorem slotsAt_append (content : Content) (first second : List Nat) :
    content.slotsAt (first ++ second) = content.slotsAt first ++ content.slotsAt second :=
  List.filterMap_append

theorem slotsAt_cons {content : Content} {slot : Slot} {position : Nat}
    (there : content[position]? = some slot) (positions : List Nat) :
    content.slotsAt (position :: positions) = slot :: content.slotsAt positions :=
  List.filterMap_cons_some there

theorem slotsAt_congr {content other : Content} {positions : List Nat}
    (same : ∀ position ∈ positions, other[position]? = content[position]?) :
    other.slotsAt positions = content.slotsAt positions :=
  List.filterMap_congr same

theorem mem_slotsAt {content : Content} {positions : List Nat} {slot : Slot} :
    slot ∈ content.slotsAt positions ↔ ∃ position ∈ positions, content[position]? = some slot :=
  List.mem_filterMap

/-- The slots one position further up are those behind the tail. -/
theorem slotsAt_cons_map (slot : Slot) (content : Content) (positions : List Nat) :
    slotsAt (slot :: content) (0 :: positions.map (· + 1)) = slot :: content.slotsAt positions := by
  refine (slotsAt_cons rfl _).trans (congrArg (slot :: ·) ?_)
  rw [slotsAt, List.filterMap_map]
  rfl

/-- The slots at all positions are the content. -/
theorem slotsAt_range (content : Content) :
    content.slotsAt (List.range content.length) = content := by
  induction content with
  | nil => rfl
  | cons slot rest ih => rw [List.length_cons, List.range_succ_eq_map, slotsAt_cons_map, ih]

/-- Where every position is one of the content, no slot is missing. -/
theorem length_slotsAt {content : Content} {positions : List Nat}
    (inside : ∀ position ∈ positions, position < content.length) :
    (content.slotsAt positions).length = positions.length := by
  induction positions with
  | nil => rfl
  | cons first rest ih =>
      rw [slotsAt_cons (List.getElem?_eq_getElem (inside first (List.mem_cons_self ..))),
        List.length_cons, ih fun position member => inside position (List.mem_cons_of_mem _ member),
        List.length_cons]

/-! ## Removals -/

private theorem splitFrom_eq (positions : List Nat) (index : Nat) (content : Content) :
    splitFrom positions index content =
      (((List.range' index content.length).filter (· ∈ positions)).filterMap
          fun position => content[position - index]?,
        ((List.range' index content.length).filter (· ∉ positions)).filterMap
          fun position => content[position - index]?) := by
  induction content generalizing index with
  | nil => rfl
  | cons slot rest ih =>
      have later (chosen : Nat → Bool) :
          ((List.range' (index + 1) rest.length).filter chosen).filterMap
              (fun position => (slot :: rest)[position - index]?) =
            ((List.range' (index + 1) rest.length).filter chosen).filterMap
              fun position => rest[position - (index + 1)]? := by
        apply List.filterMap_congr
        intro position member
        have above := (List.mem_range'_1.mp (List.mem_of_mem_filter member)).1
        rw [show position - index = position - (index + 1) + 1 by omega, List.getElem?_cons_succ]
      rw [splitFrom, ih, List.length_cons, List.range'_succ]
      by_cases here : index ∈ positions
      · simp [here, later]
      · simp [here, later]

/-- A removal parts the slots of a content by their positions. -/
theorem remove_eq_slotsAt (content : Content) (positions : List Nat) :
    content.remove positions =
      (content.slotsAt ((List.range content.length).filter (· ∈ positions)),
        content.slotsAt ((List.range content.length).filter (· ∉ positions))) := by
  rw [remove, splitFrom_eq, ← List.range_eq_range']
  rfl

/-- A removal yields the slots at its positions. -/
theorem removed_eq_slotsAt {content : Content} {removed : SlotSet}
    (inside : ∀ position ∈ removed, position < content.length) :
    (content.remove removed.toList).1 = content.slotsAt removed.toList := by
  have listed : removed.toList = (List.range content.length).filter (· ∈ removed.toList) := by
    apply SlotSet.toList_eq_of_mem_iff
    · exact List.pairwise_lt_range.filter _
    · intro position
      simp only [List.mem_filter, List.mem_range, decide_eq_true_eq, SlotSet.mem_toList]
      exact and_iff_right_of_imp (inside position)
  rw [remove_eq_slotsAt, ← listed]

/-- What remains is in its old order. -/
theorem remove_sublist (content : Content) (positions : List Nat) :
    (content.remove positions).2.Sublist content := by
  rw [remove_eq_slotsAt]
  have fewer : (content.slotsAt ((List.range content.length).filter (· ∉ positions))).Sublist
      (content.slotsAt (List.range content.length)) := List.filter_sublist.filterMap _
  rwa [slotsAt_range] at fewer

private theorem getElem?_splitFrom {removed : SlotSet} (content : Content) (index place : Nat)
    (kept : index + place ∉ removed) :
    (splitFrom removed.toList index content).2[
        place - (removed.below (index + place) - removed.below index)]? =
      content[place]? := by
  -- Beyond the start, positions count from the index of the first slot.
  induction content generalizing index place with
  | nil => simp [splitFrom]
  | cons slot rest ih =>
      have grows := removed.below_add_le index place
      have step := removed.below_succ index
      cases place with
      | zero =>
          have outside : index ∉ removed.toList := by simpa [SlotSet.mem_iff] using kept
          simp [splitFrom, outside]
      | succ place =>
          have later := ih (index + 1) place (by rwa [Nat.add_right_comm])
          have laterGrows := removed.below_add_le (index + 1) place
          have sameEnd : index + 1 + place = index + (place + 1) := by omega
          rw [sameEnd] at later laterGrows
          by_cases gone : removed.contains index
          · rw [if_pos gone] at step
            have listed : index ∈ removed.toList := by simpa using gone
            simp only [splitFrom, listed, ↓reduceIte, List.getElem?_cons_succ]
            rw [← later]
            congr 1
            omega
          · rw [if_neg gone] at step
            have unlisted : index ∉ removed.toList := by simpa using gone
            simp only [splitFrom, unlisted, ↓reduceIte, List.getElem?_cons_succ]
            rw [← later]
            have shifted : place + 1 - (removed.below (index + (place + 1)) - removed.below index) =
                place - (removed.below (index + (place + 1)) - removed.below (index + 1)) + 1 := by
              omega
            rw [shifted, List.getElem?_cons_succ]

/-- A slot that is kept stands as far down as there are removed positions below it. -/
theorem getElem?_remove {content : Content} {removed : SlotSet} {position : Nat}
    (kept : position ∉ removed) :
    (content.remove removed.toList).2[position - removed.below position]? = content[position]? := by
  have split := getElem?_splitFrom content 0 position (by rwa [Nat.zero_add])
  rwa [Nat.zero_add, SlotSet.below_zero, Nat.sub_zero] at split

/-- Below every removed position nothing moves. -/
theorem getElem?_remove_of_lt {content : Content} {removed : SlotSet} {position : Nat}
    (under : ∀ gone ∈ removed, position < gone) :
    (content.remove removed.toList).2[position]? = content[position]? := by
  have kept : position ∉ removed := fun member => Nat.lt_irrefl _ (under position member)
  have moved : (content.remove removed.toList).2[position - removed.below position]? =
      content[position]? := getElem?_remove kept
  rwa [SlotSet.below_eq_zero fun gone member => Nat.le_of_lt (under gone member),
    Nat.sub_zero] at moved

/-- What slides down with its positions is what was kept. -/
theorem slotsAt_compact (content : Content) (slots removed : SlotSet) :
    (content.remove removed.toList).2.slotsAt (slots.compact removed).toList =
      content.slotsAt (slots.toList.filter (!removed.contains ·)) := by
  rw [SlotSet.toList_compact, slotsAt, List.filterMap_map]
  apply List.filterMap_congr
  intro position member
  exact getElem?_remove (by simpa [SlotSet.mem_iff] using (List.mem_filter.mp member).2)

theorem splitFrom_append (positions : List Nat) (index : Nat) (front back : Content) :
    splitFrom positions index (front ++ back) =
      ((splitFrom positions index front).1 ++ (splitFrom positions (index + front.length) back).1,
        (splitFrom positions index front).2 ++
          (splitFrom positions (index + front.length) back).2) := by
  induction front generalizing index with
  | nil => rfl
  | cons slot front ih =>
      simp only [List.cons_append, splitFrom, ih, List.length_cons, Nat.add_assoc,
        Nat.add_comm 1 front.length]
      split <;> rfl

/-- Only the positions of the content matter. -/
theorem splitFrom_congr {first second : List Nat} {index : Nat} {content : Content}
    (same : ∀ position, index ≤ position → position < index + content.length →
      (position ∈ first ↔ position ∈ second)) :
    splitFrom first index content = splitFrom second index content := by
  induction content generalizing index with
  | nil => rfl
  | cons slot rest ih =>
      have later : splitFrom first (index + 1) rest = splitFrom second (index + 1) rest := by
        apply ih
        intro position above inside
        exact same position (by omega) (by rw [List.length_cons]; omega)
      have here : index ∈ first ↔ index ∈ second :=
        same index (Nat.le_refl index) (by rw [List.length_cons]; omega)
      simp only [splitFrom, later, here]

/-- Positions in front of a content take nothing out of it. -/
theorem splitFrom_of_lt {positions : List Nat} {index : Nat}
    (before : ∀ position ∈ positions, position < index) (content : Content) :
    splitFrom positions index content = ([], content) := by
  induction content generalizing index with
  | nil => rfl
  | cons slot rest ih =>
      have outside : index ∉ positions := fun member => Nat.lt_irrefl _ (before index member)
      have later := ih fun position member => Nat.lt_succ_of_lt (before position member)
      simp only [splitFrom, later, outside, if_false]

private theorem splitFrom_singleton (content : Content) (index place : Nat) :
    (splitFrom [index + place] index content).2 = content.eraseIdx place := by
  induction content generalizing index place with
  | nil => rfl
  | cons slot rest ih =>
      cases place with
      | zero => simp [splitFrom, splitFrom_of_lt]
      | succ place =>
          have later := ih (index + 1) place
          rw [Nat.add_right_comm, Nat.add_assoc] at later
          simp [splitFrom, later]

/-- A removal of one slot. -/
theorem remove_singleton (content : Content) (position : Nat) :
    (content.remove (SlotSet.singleton position).toList).2 = content.eraseIdx position := by
  rw [SlotSet.toList_singleton, remove]
  simpa using splitFrom_singleton content 0 position

/-! ## Keys -/

theorem hasKey_eq_true {key : Value} {slot : Slot} :
    hasKey key slot = true ↔ slot.key = some key := by
  cases named : slot.key <;> simp [hasKey, named, Value.sameKey_eq_true]

/-- A key is found at a slot that carries it. -/
theorem exists_of_positionOf? {content : Content} {key : Value} {position : Nat}
    (found : content.positionOf? key = some position) :
    ∃ slot, content[position]? = some slot ∧ slot.key = some key := by
  obtain ⟨inside, has, -⟩ := List.findIdx?_eq_some_iff_getElem.mp found
  exact ⟨_, List.getElem?_eq_getElem inside, hasKey_eq_true.mp has⟩

/-- A replacement under a key is one of a slot that carries it. -/
theorem exists_of_placementOf {content : Content} {key : Value} {position : Nat}
    (placed : content.placementOf key = .replace position) :
    ∃ slot, content[position]? = some slot ∧ slot.key = some key := by
  rw [placementOf] at placed
  split at placed
  · rename_i found lookup
    rw [Placement.replace.inj placed] at lookup
    exact exists_of_positionOf? lookup
  · contradiction

/-- A key is found below the head as it was, unless only the head carries it. -/
theorem positionOf?_dropLast {content : Content} {key : Value}
    (absent : content.positionOf? key = none ∨
      content.positionOf? key = some (content.length - 1)) :
    positionOf? content.dropLast key = none := by
  rw [positionOf?, List.findIdx?_eq_none_iff]
  intro slot member
  rcases absent with none | last
  · exact List.findIdx?_eq_none_iff.mp none slot (List.dropLast_subset content member)
  · obtain ⟨position, bound, rfl⟩ := List.mem_iff_getElem.mp member
    obtain ⟨_, -, before⟩ := List.findIdx?_eq_some_iff_getElem.mp last
    rw [List.length_dropLast] at bound
    rw [List.getElem_dropLast]
    simpa using before position bound

/-! ## Insertions -/

@[simp] theorem length_insert_head (content : Content) (slot : Slot) :
    (content.insert .head slot).length = content.length + 1 := by
  simp [insert, pushHead]

@[simp] theorem length_insert_tail (content : Content) (slot : Slot) :
    (content.insert .tail slot).length = content.length + 1 := by
  simp [insert, pushTail]

theorem insert_replace (content : Content) (position : Nat) (slot : Slot) :
    content.insert (.replace position) slot =
      content.modify position fun old => { old with value := slot.value } := by
  simp only [insert, replace]
  by_cases inside : position < content.length
  · simp [inside]
  · simp only [inside, ↓reduceIte]
    rw [List.modify_eq_self (Nat.not_lt.mp inside)]

@[simp] theorem length_insert_replace (content : Content) (position : Nat) (slot : Slot) :
    (content.insert (.replace position) slot).length = content.length := by
  simp [insert_replace]

/-- No insertion makes a container shorter. -/
theorem length_le_insert (content : Content) (placement : Placement) (slot : Slot) :
    content.length ≤ (content.insert placement slot).length := by
  cases placement <;> simp

/-- A slot stays as it is unless it is replaced or everything is shifted. -/
theorem getElem?_insert {content : Content} {placement : Placement} {slot : Slot} {position : Nat}
    (inside : position < content.length) (unshifted : placement ≠ .tail)
    (kept : placement ≠ .replace position) :
    (content.insert placement slot)[position]? = content[position]? := by
  cases placement with
  | head => simp [insert, pushHead, List.getElem?_append_left inside]
  | tail => exact (unshifted rfl).elim
  | replace other =>
      have different : other ≠ position := fun same => kept (by rw [same])
      simp [insert_replace, different]

theorem slotsAt_insert_head {content : Content} {slots : SlotSet}
    (inside : ∀ position ∈ slots, position < content.length) (slot : Slot) :
    (content.insert .head slot).slotsAt (slots.insert content.length).toList =
      content.slotsAt slots.toList ++ [slot] := by
  rw [SlotSet.toList_insert_last inside, slotsAt_append]
  congr 1
  · apply slotsAt_congr
    intro position member
    exact List.getElem?_append_left (inside position ((SlotSet.mem_toList ..).mp member))
  · exact slotsAt_cons List.getElem?_concat_length []

theorem slotsAt_insert_tail (content : Content) (slots : SlotSet) (slot : Slot) :
    (content.insert .tail slot).slotsAt ((slots.shiftUp 1).insert 0).toList =
      slot :: content.slotsAt slots.toList := by
  rw [SlotSet.toList_insert_first]
  exact slotsAt_cons_map ..

/-- A replacement overwrites the value of one slot. -/
theorem slotsAt_insert_replace {content : Content} {slots : SlotSet} {position : Nat} {old : Slot}
    (member : position ∈ slots) (there : content[position]? = some old) (slot : Slot) :
    ∃ front back, content.slotsAt slots.toList = front ++ old :: back ∧
      (content.insert (.replace position) slot).slotsAt slots.toList =
        front ++ { old with value := slot.value } :: back := by
  obtain ⟨low, high, listed⟩ := List.append_of_mem ((SlotSet.mem_toList slots position).mpr member)
  have absent : position ∉ low ++ high := by
    have nodup := slots.toList_nodup
    rw [listed] at nodup
    exact (List.nodup_cons.mp (List.nodup_middle.mp nodup)).1
  have unchanged {positions : List Nat} (absent : position ∉ positions) :
      (content.insert (.replace position) slot).slotsAt positions = content.slotsAt positions := by
    apply slotsAt_congr
    intro other otherMember
    have different : position ≠ other := fun same => absent (same ▸ otherMember)
    simp [insert_replace, different]
  have changed : (content.insert (.replace position) slot)[position]? =
      some { old with value := slot.value } := by
    simp [insert_replace, there]
  refine ⟨content.slotsAt low, content.slotsAt high, ?_, ?_⟩
  · rw [listed, slotsAt_append, slotsAt_cons there]
  · rw [listed, slotsAt_append, slotsAt_cons changed,
      unchanged fun member => absent (List.mem_append_left _ member),
      unchanged fun member => absent (List.mem_append_right _ member)]

end Custody.Content
