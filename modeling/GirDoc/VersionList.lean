import GirDoc.Value.Order

/-!
# Version lists

Binary search in a list of versions. The list is expected to be sorted, but every search ends on any
list: the searches only say on which side of a middle element to go on.
-/

namespace GirDoc.VersionList

/-- Why a search has no answer. -/
inductive Failure where
  /-- Two values that have no order were compared. -/
  | incomparable
  /-- No element answers the question. -/
  | notFound
  /-- A place outside the list was asked for. -/
  | outOfRange
  deriving Repr, DecidableEq

variable {α : Type}

/-- The element at a place. -/
def elementAt (a : Array α) (i : Nat) : Except Failure α :=
  match a[i]? with
  | some v => .ok v
  | none => .error .outOfRange

/-- Halves the range `lo ≤ i < hi`, going on to the right of every element that `goRight` holds of. -/
def bisect (goRight : α → Except Failure Bool) (a : Array α) (lo hi : Nat) :
    Except Failure Nat :=
  if _h : lo < hi then
    let mid := (lo + hi) / 2
    match elementAt a mid with
    | .error e => .error e
    | .ok v =>
      match goRight v with
      | .error e => .error e
      | .ok true => bisect goRight a (mid + 1) hi
      | .ok false => bisect goRight a lo mid
  else .ok lo
termination_by hi - lo
decreasing_by all_goals omega

/-- An order that may fail to compare, with the equality that goes with it. -/
structure Comparison (α : Type) where
  less : α → α → Except Failure Bool
  same : α → α → Bool

/-- The first place where `x` could be put in a sorted list. -/
def leftPlace (cmp : Comparison α) (a : Array α) (x : α) : Except Failure Nat :=
  bisect (fun v => cmp.less v x) a 0 a.size

/-- The last place where `x` could be put in a sorted list. -/
def rightPlace (cmp : Comparison α) (a : Array α) (x : α) : Except Failure Nat :=
  bisect (fun v => (cmp.less x v).map (!·)) a 0 a.size

/-- The element just before a place; before the first place there is none. -/
def elementBefore (a : Array α) (i : Nat) : Except Failure α :=
  match i with
  | 0 => .error .notFound
  | j + 1 => elementAt a j

/-- The element after a place; after the last place there is none. -/
def elementAfter (a : Array α) (i : Nat) : Except Failure α :=
  if i = a.size then .error .notFound else elementAt a i

/-- The position of the leftmost element equal to `x`. -/
def index (cmp : Comparison α) (a : Array α) (x : α) : Except Failure Nat := do
  let i ← leftPlace cmp a x
  let v ← elementAfter a i
  if cmp.same v x then .ok i else .error .notFound

/-- The rightmost element less than `x`. -/
def findLt (cmp : Comparison α) (a : Array α) (x : α) : Except Failure α := do
  elementBefore a (← leftPlace cmp a x)

/-- The rightmost element less than or equal to `x`. -/
def findLe (cmp : Comparison α) (a : Array α) (x : α) : Except Failure α := do
  elementBefore a (← rightPlace cmp a x)

/-- The leftmost element greater than `x`. -/
def findGt (cmp : Comparison α) (a : Array α) (x : α) : Except Failure α := do
  elementAfter a (← rightPlace cmp a x)

/-- The leftmost element greater than or equal to `x`. -/
def findGe (cmp : Comparison α) (a : Array α) (x : α) : Except Failure α := do
  elementAfter a (← leftPlace cmp a x)

/-- The order of dynamic values. -/
def ofValues : Comparison Value where
  less a b := match a.less? b with
    | some r => .ok r
    | none => .error .incomparable
  same := Value.same

end GirDoc.VersionList
