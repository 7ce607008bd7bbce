import GirDoc.Value.Basic

/-!
# Equality and order of values

Any two values can be tested for equality. Only values of one kind have an order: numbers, texts (by
code points) and lists (by their first difference); truth values count as the numbers 0 and 1.
-/

namespace GirDoc.Value

/-- The number that a value stands for, if it is one. -/
def number? : Value → Option Int
  | bool b => some (if b then 1 else 0)
  | int n => some n
  | _ => none

mutual

/-- Whether two values are equal; dictionaries are compared without regard to order. -/
def same : Value → Value → Bool
  | null, null => true
  | text a, text b => a == b
  | real a, real b => a == b
  | list as, list bs => sameItems as bs
  | dict as, dict bs => as.length == bs.length && sameEntries as bs
  | a, b =>
    match number? a, number? b with
    | some m, some n => m == n
    | _, _ => false

/-- Whether two lists have equal items. -/
def sameItems : List Value → List Value → Bool
  | [], [] => true
  | a :: as, b :: bs => same a b && sameItems as bs
  | _, _ => false

/-- Whether each entry on the left is among those on the right. -/
def sameEntries : List (String × Value) → List (String × Value) → Bool
  | [], _ => true
  | (key, a) :: as, bs =>
    match bs.lookup key with
    | some b => same a b && sameEntries as bs
    | none => false

end

mutual

/-- Whether the first value comes before the second; `none` if they have no order. -/
def less? : Value → Value → Option Bool
  | text a, text b => some (decide (a < b))
  | list as, list bs => lessItems? as bs
  | a, b =>
    match number? a, number? b with
    | some m, some n => some (decide (m < n))
    | _, _ => none

/-- Lists are ordered by their first difference, and a list comes before its extensions. -/
def lessItems? : List Value → List Value → Option Bool
  | [], [] => some false
  | [], _ :: _ => some true
  | _ :: _, [] => some false
  | a :: as, b :: bs => if same a b then lessItems? as bs else less? a b

end

end GirDoc.Value
