import Custody.Value

/-!
# Content of a container

The slots of a container, tail first: the first slot is the tail and the last one the head.  Every
literal that can be followed is kept, and a slot whose value only the running program knows holds
none.
-/

namespace Custody

/-- One slot. -/
structure Slot where
  value : Option Value
  key : Option Value := none
  deriving DecidableEq, Repr, Inhabited

/-- The slots of a container, tail first. -/
abbrev Content := List Slot

namespace Content

/-- The slot that a pop removes. -/
def head? (content : Content) : Option Slot :=
  content.getLast?

/-- Insert at the head. -/
def pushHead (content : Content) (slot : Slot) : Content :=
  content ++ [slot]

/-- Insert at the tail. -/
def pushTail (content : Content) (slot : Slot) : Content :=
  slot :: content

/-- Overwrite the value at a position and keep its key.  A position past the end is refused with
the length. -/
def replace (content : Content) (position : Nat) (value : Option Value) : Except Nat Content :=
  if position < content.length then
    .ok (content.modify position fun slot => { slot with value })
  else .error content.length

/-- Whether a slot carries a key. -/
def hasKey (key : Value) (slot : Slot) : Bool :=
  slot.key.any fun own => own.sameKey key

/-- The lowest position whose slot carries a key. -/
def positionOf? (content : Content) (key : Value) : Option Nat :=
  content.findIdx? (hasKey key)

/-- Split slots, the first of which stands at an index, into those at given positions and the
others, each in their order. -/
def splitFrom (positions : List Nat) : Nat → Content → Content × Content
  | _, [] => ([], [])
  | index, slot :: rest =>
    let (removed, kept) := splitFrom positions (index + 1) rest
    if index ∈ positions then (slot :: removed, kept) else (removed, slot :: kept)

/-- Remove the slots at some positions: those removed, and those that remain. -/
def remove (content : Content) (positions : List Nat) : Content × Content :=
  splitFrom positions 0 content

end Content

end Custody
