import GirDoc.Gir.Vocabulary
import GirDoc.Session

/-!
# Leaving out symbols

When an index is generated, symbols that introspection makes superfluous are left out: the macros and
type functions that every class has, class structures and private structures. The verdict on a symbol is
reported the first time only, except for class structures.
-/

namespace GirDoc.Gir

/-- What becomes of a symbol. -/
inductive Verdict where
  /-- It is made. -/
  | keep
  /-- It is left out, with nothing said. -/
  | drop
  /-- It is left out, which is reported; from then on nothing is said of it. -/
  | dropOnce (message : String)
  /-- It is left out, which is reported each time. -/
  | dropAlways (message : String)
  deriving Repr, DecidableEq

/-- The variables that macros declare for themselves. -/
def hiddenVariables : List String := ["__inst", "__t", "__r"]

/-- The verdict on a structure. -/
def structVerdict (x : Index) (name : String) : Verdict :=
  match x.node? name with
  | none => .keep
  | some n =>
    if ((n.attribute? (glib "is-gtype-struct-for")).getD "").isEmpty then
      if n.attribute? "disguised" = some "1" then .dropOnce ("Dropping private structure " ++ name)
      else .keep
    else .dropAlways ("Dropping class structure " ++ name)

/-- The verdict on a symbol of which nothing was said before. One without a name counts as a type
function once some class has none. -/
def freshVerdict (x : Index) (kind : SymbolKind) (name : Option String) : Verdict :=
  if name ∈ x.macroNames.map some then .dropOnce ("Dropping " ++ spelled name)
  else if name ∈ x.typeFunctions then .dropOnce ("Dropping get_type function " ++ spelled name)
  else match name with
    | none => .keep
    | some name =>
      if kind = .struct then structVerdict x name
      else if kind = .exportedVariable ∧ name ∈ hiddenVariables then .drop
      else .keep

/-- The names of which a verdict is kept once it was given. -/
def Index.superfluous (x : Index) : List (Option String) :=
  x.macroNames.map some ++ x.typeFunctions ++ x.nodes.map fun e => some e.1

/-- The verdict on a symbol, when those of `leftOut` were reported before. -/
def verdict (x : Index) (leftOut : List (Option String)) (kind : SymbolKind) (name : Option String) :
    Verdict :=
  if name ∈ leftOut then .drop else freshVerdict x kind name

end GirDoc.Gir

namespace GirDoc.Session

open Gir

/-- Requests a symbol for the documentation of introspection: nothing if it is left out. -/
def requestFiltered (kind : SymbolKind) (details : List Detail) : Doc SymbolSlot := do
  let s ← get
  if !s.leavesOut then return some (← requestPlain kind details)
  let found ← match ← Attempt.need .missingKey (Request.display? { kind, details }) with
    | .null => pure (some none)
    | .text name => pure (some (some name))
    | .list _ | .dict _ => throw .wrongType
    | _ => pure none
  match found with
  | none => return some (← requestPlain kind details)
  | some name => match verdict s.index s.leftOut kind name with
    | .keep => return some (← requestPlain kind details)
    | .drop => return none
    | .dropAlways message =>
      debug message
      return none
    | .dropOnce message =>
      debug message
      modify fun s => { s with leftOut := insertNew s.leftOut name }
      return none

/-- Requests a symbol for whoever asks. -/
def request (owner : Owner) (kind : SymbolKind) (details : List Detail) : Doc SymbolSlot :=
  match owner with
  | .c => do return some (← requestPlain kind details)
  | .introspection => requestFiltered kind details

end GirDoc.Session
