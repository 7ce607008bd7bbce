import GirDoc.Text.Blank

/-!
# Public fields

Comments can mark where the public and the private fields of a structure begin. `publicFields` goes
through the lines of the structure and keeps the text and the fields of its public sections.

A line that holds a mark is never kept. Until the first field, lines are kept whatever the section. Of
the fields that share a line only the first is kept, and after the last field all is public. A field
that stands above the line reached stops the search: nothing is kept from there on.
-/

namespace GirDoc.PublicFields

/-- A mark in a structure: whether public fields follow it, and its line. -/
structure Mark where
  isPublic : Bool
  line : Nat
  deriving Repr, DecidableEq

/-- The mark that a comment is, judged by its text without white space. -/
def markOf? (comment : String) (line : Nat) : Option Mark :=
  match String.join (Text.words comment) with
  | "/*<public>*/" => some ⟨true, line⟩
  | "/*<private>*/" => some ⟨false, line⟩
  | "/*<protected>*/" => some ⟨false, line⟩
  | _ => none

variable {φ : Type}

/-- How far the search has come: the section, the marks and fields still to come, and what was kept.
Fields come with their lines. -/
structure State (φ : Type) where
  isPublic : Bool
  marks : List Mark
  fields : List (φ × Nat)
  foundField : Bool := false
  text : List String := []
  kept : List φ := []

/-- Goes through a line without a mark. -/
def State.fieldLine (s : State φ) (number : Nat) (content : String) : State φ :=
  match s.fields with
  | [] => if s.isPublic || !s.foundField then { s with text := s.text ++ [content] } else s
  | (field, line) :: _ =>
    if number < line then
      if s.isPublic || !s.foundField then { s with text := s.text ++ [content] } else s
    else if number = line then
      let rest := s.fields.dropWhile fun (_, l) => l = number
      { s with
        foundField := true
        text := if s.isPublic then s.text ++ [content] else s.text
        kept := if s.isPublic then s.kept ++ [field] else s.kept
        fields := rest
        isPublic := if rest.isEmpty then true else s.isPublic }
    else s

/-- Goes through one line of the structure. -/
def State.line (s : State φ) (number : Nat) (content : String) : State φ :=
  match s.marks with
  | [] => s.fieldLine number content
  | mark :: marks =>
    if mark.line = number then { s with isPublic := mark.isPublic, marks }
    else s.fieldLine number content

/-- Goes through lines with consecutive numbers. -/
def State.lines (s : State φ) (first : Nat) : List String → State φ
  | [] => s
  | content :: rest => (s.line first content).lines (first + 1) rest

/-- The public text and the public fields of a structure whose lines are numbered from `first`.
Without a mark, all of it is public. -/
def publicFields (first : Nat) (content : List String) (marks : List Mark)
    (fields : List (φ × Nat)) : String × List φ :=
  if marks.isEmpty then ("\n".intercalate content, fields.map Prod.fst)
  else
    let start : State φ := { isPublic := !marks.any Mark.isPublic, marks, fields }
    let s := start.lines first content
    ("\n".intercalate s.text, s.kept)

end GirDoc.PublicFields
