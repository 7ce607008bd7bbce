import GirDoc.Ast.Model
import GirDoc.Fault

/-!
# Diagnostics

What the parser library remarks on a source, with the stretches meant, the repairs proposed and the
notes attached.
-/

namespace GirDoc.Ast

/-- A proposed repair: a stretch and the text to put there. -/
structure FixIt where
  range : Range
  text : String
  deriving Repr, Inhabited

/-- How a repair is shown. -/
def FixIt.shown (f : FixIt) : String :=
  "<FixIt range " ++ f.range.shown ++ ", value " ++ Text.Quoted.encode f.text ++ ">"

namespace Diagnostic

/-- The repair at an index. A repair without text cannot be told from one that is not there. -/
def fixIt (d : Diagnostic) (i : Nat) : Except Fault FixIt :=
  match d.fixits[i]? with
  | some (range, text) => if text.isEmpty then .error .outOfRange else .ok { range, text }
  | none => .error .outOfRange

/-- How a diagnostic is shown. -/
def shown (d : Diagnostic) : String :=
  "<Diagnostic severity " ++ toString d.severity ++ ", location " ++ d.location.shown
    ++ ", spelling " ++ Text.Quoted.encode d.spelling ++ ">"

/-- The options for formatting that are used if none are given. -/
def defaultOptions : Nat := 11

/-- The options for formatting, if they exist: there are six of them. -/
def checkOptions (options : Int) : Except Fault Nat :=
  if 0 ≤ options && options < 64 then .ok options.toNat else .error .invalidFormat

end Diagnostic

end GirDoc.Ast
