import Custody.Bitmap

/-!
# Sets of positions

The positions of a container that a borrow covers, as a bitmap without zeros behind its last one.
Two sets with the same members are therefore equal.
-/

namespace Custody

/-- A finite set of positions, by the words of its bitmap. -/
structure SlotSet where
  words : List Word
  trimmed : Bitmap.Trimmed words
  deriving DecidableEq

namespace SlotSet

instance : Repr SlotSet where
  reprPrec set _ := repr set.words

/-- The empty set. -/
def empty : SlotSet where
  words := []
  trimmed := Bitmap.trimmed_nil

instance : Inhabited SlotSet := ⟨empty⟩

/-- Whether a position belongs to the set. -/
def contains (set : SlotSet) (position : Nat) : Bool :=
  Bitmap.has set.words position

instance : Membership Nat SlotSet where
  mem set position := set.contains position = true

/-- The set with one more position. -/
def insert (set : SlotSet) (position : Nat) : SlotSet where
  words := Bitmap.set set.words position
  trimmed := set.trimmed.set position

/-- One position. -/
def singleton (position : Nat) : SlotSet :=
  empty.insert position

/-- The positions of a list. -/
def ofList (positions : List Nat) : SlotSet :=
  positions.foldl insert empty

/-- The positions from `low` through `high`. -/
def range (low high : Nat) : SlotSet :=
  ofList (List.range' low (high + 1 - low))

/-- The positions of either set. -/
def union (left right : SlotSet) : SlotSet where
  words := Bitmap.merge left.words right.words
  trimmed := left.trimmed.merge right.trimmed

/-- Whether two sets have a position in common. -/
def intersects (left right : SlotSet) : Bool :=
  Bitmap.meets left.words right.words

/-- The positions in ascending order. -/
def toList (set : SlotSet) : List Nat :=
  Bitmap.ones set.words

/-- Whether every position of the second set is one of the first. -/
def covers (whole part : SlotSet) : Bool :=
  part.toList.all whole.contains

/-- Whether the set has no position. -/
def isEmpty (set : SlotSet) : Bool :=
  set.words.all (· = 0#64)

/-- The number of positions. -/
def size (set : SlotSet) : Nat :=
  Bitmap.countOnes set.words

/-- The lowest position. -/
def min? (set : SlotSet) : Option Nat :=
  set.toList.head?

/-- The set after slots have been inserted at the tail. -/
def shiftUp (set : SlotSet) (count : Nat) : SlotSet :=
  set.toList.foldl (fun shifted position => shifted.insert (position + count)) empty

/-- Pass the deleted positions below a position, of which there are some more than before. -/
def passBelow (position : Nat) : Nat → List Nat → Nat × List Nat
  | below, [] => (below, [])
  | below, gone :: ahead =>
    if gone < position then passBelow position (below + 1) ahead else (below, gone :: ahead)

/-- Move the positions of a list down by the number of deleted positions below each, and leave out
the deleted ones.  The deleted positions are passed along with the list: `below` of them have been,
and the others are ahead. -/
def compactFrom (removed : SlotSet) : List Nat → Nat → List Nat → SlotSet → SlotSet
  | [], _, _, compacted => compacted
  | position :: rest, below, ahead, compacted =>
    let passed := passBelow position below ahead
    compactFrom removed rest passed.1 passed.2
      (if removed.contains position then compacted else compacted.insert (position - passed.1))

/-- The set after the slots at some positions are deleted and everything above them slides down.
Removed positions drop out. -/
def compact (set removed : SlotSet) : SlotSet :=
  compactFrom removed set.toList 0 removed.toList empty

/-- The members in braces. -/
def render (set : SlotSet) : String :=
  "\x7b" ++ ", ".intercalate (set.toList.map fun position => s!"{position}") ++ "\x7d"

theorem mem_iff {set : SlotSet} {position : Nat} :
    position ∈ set ↔ set.contains position = true := Iff.rfl

/-- Sets with the same members are equal. -/
@[ext] theorem ext {left right : SlotSet}
    (same : ∀ position, left.contains position = right.contains position) : left = right := by
  cases left with
  | mk words trimmed =>
  cases right with
  | mk others trimmedOthers =>
  rw [mk.injEq]
  exact Bitmap.eq_of_has_eq trimmed trimmedOthers same

@[simp] theorem contains_empty (position : Nat) : empty.contains position = false := rfl

@[simp] theorem contains_insert (set : SlotSet) (position other : Nat) :
    (set.insert position).contains other = (set.contains other || decide (position = other)) :=
  Bitmap.has_set ..

@[simp] theorem contains_singleton (position other : Nat) :
    (singleton position).contains other = decide (position = other) := by
  simp [singleton]

@[simp] theorem contains_union (left right : SlotSet) (position : Nat) :
    (left.union right).contains position = (left.contains position || right.contains position) :=
  Bitmap.has_merge ..

/-- The listed positions are the members. -/
@[simp] theorem mem_toList (set : SlotSet) (position : Nat) :
    position ∈ set.toList ↔ set.contains position = true :=
  Bitmap.mem_ones

end SlotSet

end Custody
