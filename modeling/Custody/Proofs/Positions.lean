import Mathlib.Data.List.Nodup
import Mathlib.Data.List.Sort
import Custody.SlotSet

/-!
# Members of sets of positions

Every operation on sets of positions, read as a statement about the members of its result.  The
listed positions ascend, so the first of them is the least, and deleting positions never lets a
higher position slide below all that is deleted or past one that is kept.
-/

namespace Custody.SlotSet

@[simp] theorem not_mem_empty (position : Nat) : position ∉ empty := by
  simp [mem_iff]

@[simp] theorem mem_singleton {position other : Nat} :
    other ∈ singleton position ↔ other = position := by
  simp [mem_iff, eq_comm]

@[simp] theorem mem_insert {set : SlotSet} {position other : Nat} :
    other ∈ set.insert position ↔ other = position ∨ other ∈ set := by
  rw [mem_iff, contains_insert, Bool.or_eq_true, decide_eq_true_eq, mem_iff, or_comm,
    eq_comm (a := position)]

@[simp] theorem mem_union {left right : SlotSet} {position : Nat} :
    position ∈ left.union right ↔ position ∈ left ∨ position ∈ right := by
  simp [mem_iff]

theorem mem_foldl_insert {positions : List Nat} {set : SlotSet} {position : Nat} :
    position ∈ positions.foldl insert set ↔ position ∈ positions ∨ position ∈ set := by
  induction positions generalizing set with
  | nil => simp
  | cons first rest ih =>
      simp only [List.foldl_cons, ih, mem_insert, List.mem_cons]
      constructor
      · rintro (member | rfl | member)
        · exact .inl (.inr member)
        · exact .inl (.inl rfl)
        · exact .inr member
      · rintro ((rfl | member) | member)
        · exact .inr (.inl rfl)
        · exact .inl member
        · exact .inr (.inr member)

@[simp] theorem mem_ofList {positions : List Nat} {position : Nat} :
    position ∈ ofList positions ↔ position ∈ positions := by
  simp [ofList, mem_foldl_insert]

@[simp] theorem mem_range {low high position : Nat} :
    position ∈ range low high ↔ low ≤ position ∧ position ≤ high := by
  rw [range, mem_ofList, List.mem_range'_1]
  omega

/-- Two sets meet exactly when they have a position in common. -/
theorem intersects_iff {left right : SlotSet} :
    left.intersects right = true ↔ ∃ position, position ∈ left ∧ position ∈ right :=
  Bitmap.meets_iff

theorem intersects_comm (left right : SlotSet) :
    left.intersects right = right.intersects left := by
  rw [Bool.eq_iff_iff, intersects_iff, intersects_iff]
  simp only [and_comm]

theorem intersects_eq_false {left right : SlotSet} :
    left.intersects right = false ↔ ∀ position ∈ left, position ∉ right := by
  rw [Bool.eq_false_iff, ne_eq, intersects_iff]
  simp

theorem covers_iff {whole part : SlotSet} :
    whole.covers part = true ↔ ∀ position ∈ part, position ∈ whole := by
  simp only [covers, List.all_eq_true, mem_toList, mem_iff]

/-! ## Listed positions -/

/-- The listed positions ascend. -/
theorem toList_pairwise (set : SlotSet) : set.toList.Pairwise (· < ·) :=
  Bitmap.ones_pairwise set.words

/-- A set lists its members in the one order that ascends. -/
theorem toList_eq_of_mem_iff {set : SlotSet} {positions : List Nat}
    (ascending : positions.Pairwise (· < ·))
    (same : ∀ position, position ∈ positions ↔ position ∈ set) : set.toList = positions := by
  refine set.toList_pairwise.eq_of_mem_iff ascending fun position => ?_
  rw [mem_toList, same, mem_iff]

theorem toList_nodup (set : SlotSet) : set.toList.Nodup :=
  set.toList_pairwise.imp Nat.ne_of_lt

/-- Counting the ones of each word counts the members. -/
theorem size_eq_length (set : SlotSet) : set.size = set.toList.length := by
  have listed : set.toList = (List.range (64 * set.words.length)).filter set.contains := by
    apply toList_eq_of_mem_iff (List.pairwise_lt_range.filter _)
    intro position
    rw [List.mem_filter, List.mem_range, mem_iff, and_iff_right_iff_imp]
    exact Bitmap.lt_of_has
  rw [listed, size, Bitmap.countOnes_eq_countP, List.countP_eq_length_filter]
  rfl

theorem toList_singleton (position : Nat) : (singleton position).toList = [position] :=
  toList_eq_of_mem_iff (List.pairwise_singleton ..) fun _ => by simp

theorem toList_insert_last {set : SlotSet} {last : Nat}
    (above : ∀ position ∈ set, position < last) :
    (set.insert last).toList = set.toList ++ [last] := by
  apply toList_eq_of_mem_iff
  · refine List.pairwise_append.mpr ⟨set.toList_pairwise, List.pairwise_singleton .., ?_⟩
    intro position member other isLast
    rw [List.mem_singleton.mp isLast]
    exact above position ((mem_toList set position).mp member)
  · intro position
    rw [List.mem_append, List.mem_singleton, mem_toList, mem_insert, mem_iff, or_comm]

@[simp] theorem mem_shiftUp {set : SlotSet} {count position : Nat} :
    position ∈ set.shiftUp count ↔ count ≤ position ∧ position - count ∈ set := by
  have made : set.shiftUp count = ofList (set.toList.map (· + count)) :=
    List.foldl_map.symm
  rw [made, mem_ofList, List.mem_map]
  constructor
  · rintro ⟨old, member, rfl⟩
    rw [Nat.add_sub_cancel]
    exact ⟨Nat.le_add_left .., (mem_toList set old).mp member⟩
  · rintro ⟨above, member⟩
    exact ⟨position - count, (mem_toList ..).mpr member, Nat.sub_add_cancel above⟩

theorem toList_insert_first (set : SlotSet) :
    ((set.shiftUp 1).insert 0).toList = 0 :: set.toList.map (· + 1) := by
  apply toList_eq_of_mem_iff
  · refine List.pairwise_cons.mpr ⟨?_, ?_⟩
    · intro position member
      obtain ⟨old, -, rfl⟩ := List.mem_map.mp member
      exact Nat.succ_pos old
    · exact List.pairwise_map.mpr (set.toList_pairwise.imp Nat.succ_lt_succ)
  · intro position
    rw [List.mem_cons, mem_insert, mem_shiftUp]
    cases position with
    | zero => simp
    | succ position => simp [mem_iff]

/-- The first listed position is the least member. -/
theorem min?_eq_some {set : SlotSet} {least : Nat} (found : set.min? = some least) :
    least ∈ set ∧ ∀ position ∈ set, least ≤ position := by
  obtain ⟨rest, listed⟩ := List.head?_eq_some_iff.mp found
  have ascending := set.toList_pairwise
  rw [listed, List.pairwise_cons] at ascending
  constructor
  · exact (mem_toList set least).mp (by simp [listed])
  · intro position member
    have inList : position ∈ set.toList := (mem_toList set position).mpr member
    rw [listed, List.mem_cons] at inList
    rcases inList with rfl | later
    · exact Nat.le_refl _
    · exact Nat.le_of_lt (ascending.1 position later)

/-! ## Deleted positions -/

/-- The number of deleted positions below a position. -/
def below (removed : SlotSet) (position : Nat) : Nat :=
  removed.toList.countP (· < position)

/-- Passing deleted positions moves them from what is ahead to what is below. -/
theorem passBelow_count {position higher : Nat} (above : position ≤ higher) (below : Nat)
    (ahead : List Nat) :
    (passBelow position below ahead).1 + (passBelow position below ahead).2.countP (· < higher) =
      below + ahead.countP (· < higher) := by
  induction ahead generalizing below with
  | nil => rfl
  | cons gone ahead ih =>
      rw [passBelow]
      split
      · next lower =>
        have counted : gone < higher := Nat.lt_of_lt_of_le lower above
        simp only [ih, List.countP_cons, counted, decide_true, if_true]
        omega
      · rfl

theorem passBelow_sublist (position below : Nat) (ahead : List Nat) :
    (passBelow position below ahead).2.Sublist ahead := by
  induction ahead generalizing below with
  | nil => exact .slnil
  | cons gone ahead ih =>
      rw [passBelow]
      split
      · exact (ih _).cons gone
      · exact List.Sublist.refl _

/-- No deleted position below is left ahead. -/
theorem passBelow_ahead {position below : Nat} {ahead : List Nat}
    (ascending : ahead.Pairwise (· < ·)) :
    (passBelow position below ahead).2.countP (· < position) = 0 := by
  induction ahead generalizing below with
  | nil => rfl
  | cons gone ahead ih =>
      rw [List.pairwise_cons] at ascending
      rw [passBelow]
      split
      · exact ih ascending.2
      · next notLower =>
        rw [List.countP_eq_zero]
        intro other member lower
        have lower : other < position := of_decide_eq_true lower
        rcases List.mem_cons.mp member with rfl | later
        · exact notLower lower
        · have := ascending.1 other later
          omega

/-- The loop of a compaction: `below` and what is ahead tell, for each position to come, how many
deleted positions are below it. -/
theorem mem_compactFrom {removed compacted : SlotSet} {positions ahead : List Nat}
    {below position : Nat} (ascending : positions.Pairwise (· < ·))
    (aheadAscending : ahead.Pairwise (· < ·))
    (counted : ∀ old ∈ positions, below + ahead.countP (· < old) = removed.below old) :
    position ∈ compactFrom removed positions below ahead compacted ↔
      position ∈ compacted ∨
        ∃ old ∈ positions, old ∉ removed ∧ position = old - removed.below old := by
  induction positions generalizing below ahead compacted with
  | nil => simp [compactFrom]
  | cons first rest ih =>
      rw [List.pairwise_cons] at ascending
      have passed : (passBelow first below ahead).1 = removed.below first := by
        rw [← counted first (List.mem_cons_self ..), ← passBelow_count (Nat.le_refl first),
          passBelow_ahead aheadAscending, Nat.add_zero]
      have countedLater : ∀ old ∈ rest, (passBelow first below ahead).1 +
          (passBelow first below ahead).2.countP (· < old) = removed.below old := by
        intro old member
        rw [passBelow_count (Nat.le_of_lt (ascending.1 old member)),
          counted old (List.mem_cons_of_mem _ member)]
      rw [compactFrom, ih ascending.2 (aheadAscending.sublist (passBelow_sublist ..)) countedLater,
        passed]
      simp only [List.mem_cons, exists_eq_or_imp, ← or_assoc]
      refine or_congr_left ?_
      split
      · next gone => simp [mem_iff, gone]
      · next kept =>
        rw [mem_insert, or_comm]
        simp [mem_iff, kept]

theorem mem_compact {set removed : SlotSet} {position : Nat} :
    position ∈ set.compact removed ↔
      ∃ old ∈ set, old ∉ removed ∧ position = old - removed.below old := by
  rw [compact, mem_compactFrom set.toList_pairwise removed.toList_pairwise
    fun old _ => Nat.zero_add _]
  simp [mem_iff]

private theorem countP_ascending_le {positions : List Nat} {low high : Nat}
    (ascending : positions.Pairwise (· < ·)) (above : ∀ position ∈ positions, low ≤ position) :
    positions.countP (· < high) ≤ high - low := by
  induction positions generalizing low with
  | nil => simp
  | cons first rest ih =>
      rw [List.pairwise_cons] at ascending
      have firstAbove := above first (by simp)
      have restBound : rest.countP (· < high) ≤ high - (first + 1) :=
        ih ascending.2 fun position member => ascending.1 position member
      rw [List.countP_cons]
      split
      · rename_i small
        have small : first < high := by simpa using small
        omega
      · omega

/-- A position slides down at most to the lowest deleted one. -/
theorem below_le {removed : SlotSet} {low position : Nat}
    (above : ∀ gone ∈ removed, low ≤ gone) : removed.below position ≤ position - low :=
  countP_ascending_le removed.toList_pairwise fun gone member =>
    above gone ((mem_toList removed gone).mp member)

/-- What lies below every deleted position stays in its place. -/
theorem below_eq_zero {removed : SlotSet} {position : Nat}
    (under : ∀ gone ∈ removed, position ≤ gone) : removed.below position = 0 := by
  rw [below, List.countP_eq_zero]
  intro gone member small
  have := under gone ((mem_toList removed gone).mp member)
  simp at small
  omega

theorem below_zero (removed : SlotSet) : removed.below 0 = 0 :=
  below_eq_zero fun gone _ => Nat.zero_le gone

private theorem countP_lt_succ (positions : List Nat) (position : Nat) :
    positions.countP (· < position + 1) =
      positions.countP (· < position) + positions.count position := by
  induction positions with
  | nil => rfl
  | cons first rest ih =>
      simp only [List.countP_cons, List.count_cons, ih, decide_eq_true_eq, beq_iff_eq]
      split <;> split <;> split <;> omega

theorem below_succ (removed : SlotSet) (position : Nat) :
    removed.below (position + 1) =
      removed.below position + if removed.contains position then 1 else 0 := by
  rw [below, countP_lt_succ, removed.toList_nodup.count, below]
  simp only [mem_toList]

theorem below_add_le (removed : SlotSet) (position count : Nat) :
    removed.below position ≤ removed.below (position + count) ∧
      removed.below (position + count) ≤ removed.below position + count := by
  induction count with
  | zero => exact ⟨Nat.le_refl _, Nat.le_refl _⟩
  | succ count ih =>
      have step := removed.below_succ (position + count)
      rw [← Nat.add_assoc, step]
      split <;> omega

/-- Positions that are kept stay in their order as they slide down. -/
theorem sub_below_lt {removed : SlotSet} {low high : Nat} (kept : low ∉ removed)
    (lower : low < high) : low - removed.below low < high - removed.below high := by
  obtain ⟨count, rfl⟩ : ∃ count, high = low + 1 + count := ⟨high - (low + 1), by omega⟩
  have same : removed.below (low + 1) = removed.below low := by
    rw [below_succ, if_neg (mt mem_iff.mpr kept), Nat.add_zero]
  have grows := removed.below_add_le (low + 1) count
  have small : removed.below low ≤ low - 0 := below_le fun gone _ => Nat.zero_le gone
  omega

/-- The positions that are kept are listed in their order, each as far down as it slides. -/
theorem toList_compact (set removed : SlotSet) :
    (set.compact removed).toList = (set.toList.filter (!removed.contains ·)).map
      fun position => position - removed.below position := by
  have kept {position : Nat} : position ∈ set.toList.filter (!removed.contains ·) ↔
      position ∈ set ∧ position ∉ removed := by
    simp [mem_iff]
  apply toList_eq_of_mem_iff
  · rw [List.pairwise_map]
    refine (set.toList_pairwise.filter _).imp_of_mem ?_
    intro low high lowKept _ lower
    exact sub_below_lt (kept.mp lowKept).2 lower
  · intro position
    rw [mem_compact, List.mem_map]
    simp only [kept, and_assoc, eq_comm]

end Custody.SlotSet
