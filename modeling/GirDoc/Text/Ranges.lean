/-!
# Ranges of characters

A set of characters is written down by the sizes of its gaps and ranges, in ascending order.
-/

namespace GirDoc.Text

/-- The first and last numbers of ranges from a number on: first so many numbers are in none, then so many in one, and
so on by turns. -/
def ranges (start : Nat) : List Nat → List (Nat × Nat)
  | gap :: size :: rest => (start + gap, start + gap + size - 1) :: ranges (start + gap + size) rest
  | _ => []

end GirDoc.Text
