/-!
# Tables in the order of first entry

A table from keys to values.  A key that is entered again keeps its place.
-/

namespace Custody

/-- A table. -/
abbrev Table (κ α : Type) := List (κ × α)

namespace Table

variable {κ α : Type} [DecidableEq κ]

/-- The value of a key. -/
def get? : Table κ α → κ → Option α
  | [], _ => none
  | (other, value) :: rest, key => if key = other then some value else get? rest key

/-- Enter a key, or change its value. -/
def insert : Table κ α → κ → α → Table κ α
  | [], key, value => [(key, value)]
  | (other, old) :: rest, key, value =>
    if key = other then (other, value) :: rest else (other, old) :: insert rest key value

/-- The entered key has the new value, and the others keep theirs. -/
@[simp] theorem get?_insert (table : Table κ α) (key other : κ) (value : α) :
    (table.insert key value).get? other = if other = key then some value else table.get? other := by
  induction table with
  | nil => rfl
  | cons entry rest ih =>
    by_cases same : key = entry.1
    · subst same
      by_cases equal : other = entry.1 <;> simp [insert, get?, equal]
    · by_cases equal : other = entry.1
      · simp [insert, get?, same, equal, Ne.symm same]
      · simp [insert, get?, same, equal, ih]

end Table

end Custody
