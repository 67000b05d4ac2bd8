import Mathlib.Data.Finset.Max
import Mathlib.Order.Interval.Finset.Nat
import Custody.Proofs.Positions

/-!
# Sets of positions as finite sets

A set of positions stands for the finite set of its members.  Each way to make a set, from its
words, is an operation on finite sets, each question about a set is one about its members, and a
finite set is one list of words only.
-/

namespace Custody.SlotSet

/-- The members of a set. -/
def toFinset (set : SlotSet) : Finset Nat :=
  set.toList.toFinset

@[simp] theorem mem_toFinset {set : SlotSet} {position : Nat} :
    position ∈ set.toFinset ↔ position ∈ set := by
  rw [toFinset, List.mem_toFinset, mem_toList, mem_iff]

/-- A finite set of members has one list of words. -/
theorem words_eq_iff_toFinset {left right : SlotSet} :
    left.words = right.words ↔ left.toFinset = right.toFinset := by
  constructor
  · intro same
    rw [toFinset, toFinset, toList, toList, same]
  · intro same
    apply Bitmap.eq_of_has_eq left.trimmed right.trimmed
    intro position
    have member : position ∈ left ↔ position ∈ right := by
      rw [← mem_toFinset, same, mem_toFinset]
    exact Bool.eq_iff_iff.mpr member

/-! ## Making sets -/

@[simp] theorem toFinset_empty : empty.toFinset = ∅ := by
  ext position
  simp

@[simp] theorem toFinset_singleton (position : Nat) :
    (singleton position).toFinset = {position} := by
  ext other
  simp

@[simp] theorem toFinset_range (low high : Nat) :
    (range low high).toFinset = Finset.Icc low high := by
  ext position
  simp

@[simp] theorem toFinset_ofList (positions : List Nat) :
    (ofList positions).toFinset = positions.toFinset := by
  ext position
  simp

@[simp] theorem toFinset_insert (set : SlotSet) (position : Nat) :
    (set.insert position).toFinset = Insert.insert position set.toFinset := by
  ext other
  simp

@[simp] theorem toFinset_union (left right : SlotSet) :
    (left.union right).toFinset = left.toFinset ∪ right.toFinset := by
  ext position
  simp

@[simp] theorem toFinset_shiftUp (set : SlotSet) (count : Nat) :
    (set.shiftUp count).toFinset = set.toFinset.image (· + count) := by
  ext position
  simp only [mem_toFinset, mem_shiftUp, Finset.mem_image]
  constructor
  · rintro ⟨above, member⟩
    exact ⟨position - count, member, Nat.sub_add_cancel above⟩
  · rintro ⟨old, member, rfl⟩
    exact ⟨Nat.le_add_left .., by rwa [Nat.add_sub_cancel]⟩

/-- The deleted positions below a position, counted as members. -/
theorem below_eq_card (removed : SlotSet) (position : Nat) :
    removed.below position = (removed.toFinset.filter (· < position)).card :=
  removed.toList_nodup.card_eq_countP.symm

/-- What is not deleted slides down by the number of deleted positions below it. -/
@[simp] theorem toFinset_compact (set removed : SlotSet) :
    (set.compact removed).toFinset = (set.toFinset \ removed.toFinset).image fun position =>
      position - (removed.toFinset.filter (· < position)).card := by
  ext position
  simp only [mem_toFinset, mem_compact, Finset.mem_image, Finset.mem_sdiff, below_eq_card,
    and_assoc, eq_comm]

/-! ## Asking about sets -/

theorem size_eq_card (set : SlotSet) : set.size = set.toFinset.card := by
  rw [size_eq_length, toFinset, List.toFinset_card_of_nodup set.toList_nodup]

theorem min?_eq_none_iff {set : SlotSet} : set.min? = none ↔ set.toFinset = ∅ := by
  rw [min?, List.head?_eq_none_iff, toFinset, List.toFinset_eq_empty_iff]

theorem min?_eq_some_iff {set : SlotSet} {least : Nat} :
    set.min? = some least ↔ IsLeast (set.toFinset : Set Nat) least := by
  constructor
  · intro found
    obtain ⟨member, below⟩ := min?_eq_some found
    exact ⟨mem_toFinset.mpr member, fun position other => below position (mem_toFinset.mp other)⟩
  · intro isLeast
    cases found : set.min? with
    | none =>
        rw [min?_eq_none_iff.mp found] at isLeast
        exact absurd isLeast.1 (Finset.notMem_empty least)
    | some first =>
        obtain ⟨member, below⟩ := min?_eq_some found
        have upper := below least (mem_toFinset.mp isLeast.1)
        have lower := isLeast.2 (mem_toFinset.mpr member)
        rw [Nat.le_antisymm upper lower]

theorem intersects_iff_nonempty {left right : SlotSet} :
    left.intersects right = true ↔ (left.toFinset ∩ right.toFinset).Nonempty := by
  simp [intersects_iff, Finset.Nonempty]

theorem covers_iff_subset {whole part : SlotSet} :
    whole.covers part = true ↔ part.toFinset ⊆ whole.toFinset := by
  simp [covers_iff, Finset.subset_iff]

/-! ## Recipes -/

/-- How a set of positions is made. -/
inductive Recipe
  | empty
  | singleton (position : Nat)
  | range (low high : Nat)
  | ofList (positions : List Nat)
  | insert (set : Recipe) (position : Nat)
  | union (left right : Recipe)
  | shiftUp (set : Recipe) (count : Nat)
  | compact (set removed : Recipe)
  deriving DecidableEq, Repr

/-- The set that a recipe makes. -/
def Recipe.make : Recipe → SlotSet
  | .empty => SlotSet.empty
  | .singleton position => SlotSet.singleton position
  | .range low high => SlotSet.range low high
  | .ofList positions => SlotSet.ofList positions
  | .insert set position => set.make.insert position
  | .union left right => left.make.union right.make
  | .shiftUp set count => set.make.shiftUp count
  | .compact set removed => set.make.compact removed.make

/-- The finite set that a recipe describes. -/
def Recipe.members : Recipe → Finset Nat
  | .empty => ∅
  | .singleton position => {position}
  | .range low high => Finset.Icc low high
  | .ofList positions => positions.toFinset
  | .insert set position => Insert.insert position set.members
  | .union left right => left.members ∪ right.members
  | .shiftUp set count => set.members.image (· + count)
  | .compact set removed => (set.members \ removed.members).image fun position =>
      position - (removed.members.filter (· < position)).card

theorem Recipe.toFinset_make (recipe : Recipe) : recipe.make.toFinset = recipe.members := by
  induction recipe with
  | empty => exact toFinset_empty
  | singleton position => exact toFinset_singleton position
  | range low high => exact toFinset_range low high
  | ofList positions => exact toFinset_ofList positions
  | insert set position ih => rw [make, toFinset_insert, ih, members]
  | union left right ihLeft ihRight => rw [make, toFinset_union, ihLeft, ihRight, members]
  | shiftUp set count ih => rw [make, toFinset_shiftUp, ih, members]
  | compact set removed ihSet ihRemoved =>
      rw [make, toFinset_compact, ihSet, ihRemoved, members]

/-- A set stands for a finite set: every question about its members is answered by that one. -/
structure Represents (set : SlotSet) (members : Finset Nat) : Prop where
  contains_iff : ∀ position, set.contains position = true ↔ position ∈ members
  /-- The members are listed in ascending order, each once. -/
  ascending : set.toList.Pairwise (· < ·)
  listed : ∀ position, position ∈ set.toList ↔ position ∈ members
  size : set.size = members.card
  isEmpty_iff : set.isEmpty = true ↔ members = ∅
  min?_iff : ∀ least, set.min? = some least ↔ IsLeast (members : Set Nat) least

theorem isEmpty_iff_toFinset {set : SlotSet} : set.isEmpty = true ↔ set.toFinset = ∅ := by
  rw [isEmpty, Bitmap.all_zero_iff, Finset.eq_empty_iff_forall_notMem]
  simp only [mem_toFinset, mem_iff, Bool.not_eq_true]
  rfl

theorem represents_toFinset (set : SlotSet) : set.Represents set.toFinset where
  contains_iff _ := mem_iff.symm.trans mem_toFinset.symm
  ascending := set.toList_pairwise
  listed _ := List.mem_toFinset.symm
  size := set.size_eq_card
  isEmpty_iff := isEmpty_iff_toFinset
  min?_iff _ := min?_eq_some_iff

/-- A set that is made in some way represents the finite set that this way describes, and two such
sets meet or cover each other, or are the same words, as the finite sets do. -/
theorem recipes_refine_finsets (first second : Recipe) :
    first.make.Represents first.members ∧
      (first.make.intersects second.make = true ↔ (first.members ∩ second.members).Nonempty) ∧
      (first.make.covers second.make = true ↔ second.members ⊆ first.members) ∧
      (first.make.words = second.make.words ↔ first.members = second.members) := by
  rw [← first.toFinset_make, ← second.toFinset_make]
  exact ⟨represents_toFinset _, intersects_iff_nonempty, covers_iff_subset, words_eq_iff_toFinset⟩

/-- Deleted positions below and among the members. -/
example : (Recipe.compact (.insert (.range 62 66) 130) (.ofList [65, 0, 63])).make.toList =
    [61, 62, 63, 127] := by
  decide +kernel

end Custody.SlotSet
