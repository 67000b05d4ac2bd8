/-!
# Sets of characters as ranges of code points

The character properties of the Unicode standard are kept as ascending lists of inclusive
ranges of code points above the ASCII block.  Inside the block each property has a rule of its
own, so the lists are consulted for the other characters only.
-/

namespace Custody.Text

/-- A set of code points as inclusive ranges. -/
abbrev Ranges := List (Nat × Nat)

/-- Whether a code point lies in one of the ranges. -/
def Ranges.contains (ranges : Ranges) (code : Nat) : Bool :=
  ranges.any fun range => range.1 ≤ code && code ≤ range.2

theorem Ranges.contains_eq_true (ranges : Ranges) (code : Nat) :
    ranges.contains code = true ↔ ∃ range ∈ ranges, range.1 ≤ code ∧ code ≤ range.2 := by
  simp [Ranges.contains]

end Custody.Text
