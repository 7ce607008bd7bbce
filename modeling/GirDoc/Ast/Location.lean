import GirDoc.Text.Quoted

/-!
# Source locations

A location is a place in a file, or nowhere; a range goes from one location to another.
-/

namespace GirDoc.Ast

/-- A place in a source file. -/
structure Location where
  file : Option String := none
  line : Nat := 0
  column : Nat := 0
  offset : Nat := 0
  deriving Repr, DecidableEq, Inhabited

/-- The stretch between two locations. -/
structure Range where
  start : Location := {}
  stop : Location := {}
  deriving Repr, DecidableEq, Inhabited

/-- A text between quotes, or the word for nothing. -/
def shownText : Option String → String
  | some s => Text.Quoted.encode s
  | none => "None"

/-- How a location is shown. -/
def Location.shown (l : Location) : String :=
  "<SourceLocation file " ++ shownText l.file ++ ", line " ++ toString l.line ++ ", column "
    ++ toString l.column ++ ">"

/-- How a range is shown. -/
def Range.shown (r : Range) : String :=
  "<SourceRange start " ++ r.start.shown ++ ", end " ++ r.stop.shown ++ ">"

/-- Whether two locations name the same file; `none` if the question cannot be asked because one of
them has no file and the other is compared by name. -/
def Range.sameFile? (r : Range) (l : Location) : Option Bool :=
  match r.start.file, l.file with
  | none, none => some true
  | some a, some b =>
    if a ≠ b then some false
    else match r.stop.file with
      | some c => some (b == c)
      | none => none
  | _, _ => none

/-- Whether a location lies in a range. On the first line only the column of the start counts, even
if the range ends there. `none` if the files cannot be compared. -/
def Range.contains? (r : Range) (l : Location) : Option Bool :=
  match r.sameFile? l with
  | none => none
  | some false => some false
  | some true =>
    if r.start.line < l.line && l.line < r.stop.line then some true
    else if r.start.line = l.line then some (r.start.column ≤ l.column)
    else if l.line = r.stop.line then some (l.column ≤ r.stop.column)
    else some false

end GirDoc.Ast
