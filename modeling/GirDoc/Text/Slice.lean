/-!
# Slices

A slice of a list goes from one index up to before another. An index below zero counts from the end, and
one outside the list is moved to its nearer end.
-/

namespace GirDoc.Text

/-- The place in a list of `n` items that an index of a slice stands for. -/
def slicePlace (n : Nat) (i : Int) : Nat :=
  if i < 0 then (i + n).toNat else min i.toNat n

/-- The items from one index up to before another. -/
def slice {α : Type} (items : List α) (first last : Int) : List α :=
  let start := slicePlace items.length first
  (items.drop start).take (slicePlace items.length last - start)

/-- The item at an index; one below zero counts from the end. -/
def item? {α : Type} (items : List α) (i : Int) : Option α :=
  if 0 ≤ i then items[i.toNat]?
  else if 0 ≤ i + items.length then items[(i + items.length).toNat]? else none

end GirDoc.Text
