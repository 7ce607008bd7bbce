import GirDoc.Ast.Kind
import GirDoc.Value.Order

/-!
# Adding kinds

Kinds can be added to the tables, at numbers that are free. A kind that is added may lie behind the end of its
table, which then reaches to it. Kinds of tokens go by any value that can be a key.
-/

namespace GirDoc.Ast

/-- The kinds that were added: numbers by family, and the keys of kinds of tokens. -/
structure Registry where
  added : List (Family × Nat) := []
  tokens : List Value := []
  deriving Inhabited

/-- Why a kind is not added. -/
inductive AddFailure where
  /-- The number is taken already. -/
  | taken (message : String)
  /-- The number lies before the start of the table. -/
  | beforeTable
  /-- What is given is no number, or cannot be a key or a name. -/
  | wrongType
  deriving Repr, DecidableEq

namespace Registry

/-- The number of places in the table of a family. -/
def places (r : Registry) (f : Family) : Nat :=
  r.added.foldl (fun n (g, place) => if g = f then max n (place + 1) else n) f.places

/-- Whether a place of a table is taken. -/
def isTaken (r : Registry) (f : Family) (place : Nat) : Bool :=
  (f.at? place).isSome || r.added.contains (f, place)

/-- Adds a kind to the table of a family. -/
def add (r : Registry) (f : Family) (number : Value) : Except AddFailure Registry :=
  match number.number? with
  | none => .error .wrongType
  | some id =>
    let place := if 0 ≤ id then id else id + r.places f
    if place < 0 then .error .beforeTable
    else if r.isTaken f place.toNat then .error (.taken (f.takenMessage number.display))
    else .ok { r with added := (f, place.toNat) :: r.added }

/-- Whether a key stands for a kind of tokens. -/
def hasToken (r : Registry) (key : Value) : Bool :=
  key.number?.any (fun n => 0 ≤ n && (Family.token.at? n.toNat).isSome) || r.tokens.any key.same

/-- Adds a kind of tokens. A kind whose name is none is there all the same. -/
def addToken (r : Registry) (key name : Value) : Registry × Except AddFailure Unit :=
  match key with
  | .list _ | .dict _ => (r, .error .wrongType)
  | _ =>
    if r.hasToken key then
      match key.number? with
      | some n => (r, .error (.taken (Family.token.takenMessage (toString n))))
      | none => (r, .error .wrongType)
    else
      let added := { r with tokens := key :: r.tokens }
      match name with
      | .text _ => (added, .ok ())
      | _ => (added, .error .wrongType)

end Registry

end GirDoc.Ast
