import Custody.SlotSet

/-!
# Places of insertion

Where a push lands in a container, and which positions it shifts or overwrites there.
-/

namespace Custody

/-- Where a push lands. -/
inductive Placement
  | head
  | tail
  | replace (position : Nat)
  deriving DecidableEq, Repr

namespace Placement

/-- The words for a placement. -/
def words : Placement → String
  | .head => "the head"
  | .tail => "the tail"
  | .replace position => s!"position {position}"

/-- The positions that an insertion shifts or overwrites, given the length before it. -/
def footprint : Placement → Nat → SlotSet
  | .head, _ => .empty
  | .tail, 0 => .empty
  | .tail, length + 1 => .range 0 length
  | .replace position, _ => .singleton position

/-- The positions that several insertions shift or overwrite. -/
def footprints (placements : List Placement) (length : Nat) : SlotSet :=
  placements.foldl (fun all placement => all.union (placement.footprint length)) .empty

/-- The same insertion once a slot has been removed from the container. -/
def afterRemoval (placement : Placement) (removed : Nat) : Placement :=
  match placement with
  | .replace position =>
    if position = removed then .head
    else if removed < position then .replace (position - 1)
    else .replace position
  | other => other

/-- Whether a view that covers some positions may insert there. -/
def isWithin (placement : Placement) (slots : SlotSet) (length : Nat) : Bool :=
  match placement with
  | .head => length = 0 || slots.contains (length - 1)
  | .tail => length = 0 || slots.contains 0
  | .replace position => slots.contains position

end Placement

end Custody
