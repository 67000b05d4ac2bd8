import Mathlib.Data.Finset.Sort
import Custody.Proofs.Members
import Custody.Proofs.Slots

/-!
# Removals by position

A removal parts the slots of a content into those at the named positions and the others, each in
their order.  It does not matter in which order and how often a position is named, nor whether
there is a slot at it.  Taking the slots out one by one, from the highest position down, comes to
the same.  What is kept slides down to the index that compaction gives its position.
-/

namespace Custody.Content

/-! ## Slot by slot -/

/-- Take the slot at a position out of a content and put it in front of those that were taken out
before.  A position without a slot is passed over. -/
def takeOut (parts : Content × Content) (position : Nat) : Content × Content :=
  match parts.2[position]? with
  | some slot => (slot :: parts.1, parts.2.eraseIdx position)
  | none => parts

/-- A removal looks at the positions of the content only. -/
theorem remove_congr {content : Content} {first second : List Nat}
    (same : ∀ position < content.length, position ∈ first ↔ position ∈ second) :
    content.remove first = content.remove second :=
  splitFrom_congr fun position _ inside => same position (by rwa [Nat.zero_add] at inside)

/-- The slot at the highest of some positions can be taken out before the others. -/
theorem remove_highest {positions : List Nat} {front : Content}
    (lower : ∀ position ∈ positions, position < front.length) (slot : Slot) (back : Content) :
    remove (front ++ slot :: back) (front.length :: positions) =
      ((remove (front ++ back) positions).1 ++ [slot], (remove (front ++ back) positions).2) := by
  have lowest : splitFrom (front.length :: positions) 0 front = splitFrom positions 0 front := by
    apply splitFrom_congr
    intro position _ inside
    have different : position ≠ front.length := by omega
    simp [different]
  have behind : splitFrom (front.length :: positions) (front.length + 1) back = ([], back) := by
    apply splitFrom_of_lt
    intro position member
    rcases List.mem_cons.mp member with rfl | member
    · exact Nat.lt_succ_self _
    · exact Nat.lt_succ_of_lt (lower position member)
  simp [remove, splitFrom_append, splitFrom, lowest, behind, splitFrom_of_lt lower]

/-- From the highest position down, slots are taken out as a removal parts them. -/
theorem foldl_takeOut {positions : List Nat} (descending : positions.Pairwise (· > ·))
    (removed content : Content) :
    positions.foldl takeOut (removed, content) =
      ((content.remove positions).1 ++ removed, (content.remove positions).2) := by
  induction positions generalizing removed content with
  | nil =>
      have untouched : content.remove [] = ([], content) := splitFrom_of_lt (by simp) content
      rw [untouched]
      rfl
  | cons highest positions ih =>
      obtain ⟨lower, fewer⟩ := List.pairwise_cons.mp descending
      rw [List.foldl_cons]
      by_cases inside : highest < content.length
      · obtain ⟨front, back, split, length⟩ : ∃ front back : Content,
            content = front ++ content[highest] :: back ∧ front.length = highest :=
          ⟨content.take highest, content.drop (highest + 1), by simp, by simp; omega⟩
        generalize content[highest] = slot at split
        subst split length
        have step : takeOut (removed, front ++ slot :: back) front.length =
            (slot :: removed, front ++ back) := by
          simp [takeOut, List.eraseIdx_append_of_length_le]
        rw [step, ih fewer, remove_highest lower, List.append_assoc, List.singleton_append]
      · have step : takeOut (removed, content) highest = (removed, content) := by
          rw [takeOut, List.getElem?_eq_none (Nat.not_lt.mp inside)]
        have same : content.remove (highest :: positions) = content.remove positions := by
          apply remove_congr
          intro position small
          have different : position ≠ highest := by omega
          simp [different]
        rw [step, ih fewer, same]

/-! ## Parts -/

/-- A list of positions removes as the set of its members does. -/
theorem remove_toList_ofList (content : Content) (positions : List Nat) :
    content.remove (SlotSet.ofList positions).toList = content.remove positions :=
  remove_congr fun position _ => by
    rw [SlotSet.mem_toList, ← SlotSet.mem_iff, SlotSet.mem_ofList]

/-- The distinct positions below a position. -/
theorem below_ofList (positions : List Nat) (position : Nat) :
    (SlotSet.ofList positions).below position =
      (positions.toFinset.filter (· < position)).card := by
  rw [SlotSet.below_eq_card, SlotSet.toFinset_ofList]

/-- What compaction makes of one position that is kept. -/
theorem compact_singleton {removed : SlotSet} {position : Nat} (kept : position ∉ removed) :
    (SlotSet.singleton position).compact removed =
      SlotSet.singleton (position - removed.below position) := by
  apply SlotSet.ext
  intro other
  rw [Bool.eq_iff_iff, ← SlotSet.mem_iff, ← SlotSet.mem_iff, SlotSet.mem_compact]
  simp [kept]

/-- The slots of a content at some positions, and the others. -/
structure Parts (content : Content) (positions : List Nat) (removed kept : Content) : Prop where
  /-- What is removed are the slots at the distinct positions of the content, in ascending order. -/
  removed_eq : removed =
    content.slotsAt (positions.toFinset.filter (· < content.length)).sort
  /-- What is kept are the slots at the other positions, in their order. -/
  kept_eq : kept = content.slotsAt (Finset.range content.length \ positions.toFinset).sort
  /-- No slot is lost, and none is there twice. -/
  perm : (removed ++ kept).Perm content
  /-- The slots can be taken out one by one, from the highest position down. -/
  oneByOne : (removed, kept) = (positions.toFinset.sort (· ≥ ·)).foldl takeOut ([], content)
  /-- A slot that is kept slides down by the number of distinct removed positions below it. -/
  moved : ∀ position slot, content[position]? = some slot → position ∉ positions →
    kept[position - (positions.toFinset.filter (· < position)).card]? = some slot
  /-- This is the index that compaction gives to a position. -/
  index : ∀ position, position ∉ positions →
    (SlotSet.singleton position).compact (SlotSet.ofList positions) =
      SlotSet.singleton (position - (positions.toFinset.filter (· < position)).card)
  /-- So a compacted set of positions holds the slots of the set that are kept. -/
  compacted : ∀ slots : SlotSet,
    kept.slotsAt (slots.compact (SlotSet.ofList positions)).toList =
      content.slotsAt (slots.toList.filter (· ∉ positions))

/-- The positions of a content that pass a test, as a finite set. -/
theorem filter_range_eq_sort {count : Nat} {test : Nat → Bool} {chosen : Finset Nat}
    (same : ∀ position, position ∈ chosen ↔ position < count ∧ test position = true) :
    (List.range count).filter test = chosen.sort := by
  apply (List.pairwise_lt_range.filter test).eq_of_mem_iff chosen.sortedLT_sort.pairwise
  intro position
  rw [Finset.mem_sort, same, List.mem_filter, List.mem_range]

theorem remove_perm (content : Content) (positions : List Nat) :
    ((content.remove positions).1 ++ (content.remove positions).2).Perm content := by
  have all : (content.slotsAt ((List.range content.length).filter (· ∈ positions) ++
      (List.range content.length).filter fun position => !decide (position ∈ positions))).Perm
        (content.slotsAt (List.range content.length)) :=
    (List.filter_append_perm ..).filterMap _
  rw [remove_eq_slotsAt]
  rw [slotsAt_range, slotsAt_append] at all
  simpa using all

/-- A removal parts a content, whatever positions it is given. -/
theorem removal_partitions (content : Content) (positions : List Nat) :
    content.Parts positions (content.remove positions).1 (content.remove positions).2 where
  removed_eq := by
    rw [remove_eq_slotsAt]
    exact congrArg content.slotsAt (filter_range_eq_sort (by simp [and_comm]))
  kept_eq := by
    rw [remove_eq_slotsAt]
    exact congrArg content.slotsAt (filter_range_eq_sort (by simp))
  perm := remove_perm content positions
  oneByOne := by
    have listed : content.remove (positions.toFinset.sort (· ≥ ·)) = content.remove positions :=
      remove_congr fun position _ => by simp
    rw [foldl_takeOut positions.toFinset.sortedGT_sort.pairwise, listed, List.append_nil]
  moved := by
    intro position slot there outside
    have kept : position ∉ SlotSet.ofList positions := by simpa using outside
    rw [← there, ← remove_toList_ofList, ← below_ofList]
    exact getElem?_remove kept
  index := by
    intro position outside
    rw [compact_singleton (by simpa using outside), below_ofList]
  compacted := by
    intro slots
    have same (position : Nat) :
        (!(SlotSet.ofList positions).contains position) = decide (position ∉ positions) := by
      rw [Bool.eq_iff_iff, Bool.not_eq_true', ← Bool.not_eq_true, ← SlotSet.mem_iff,
        SlotSet.mem_ofList, decide_eq_true_eq]
    rw [← remove_toList_ofList, slotsAt_compact, funext same]

end Custody.Content
