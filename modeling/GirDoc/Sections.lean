import GirDoc.Text.Split

/-!
# Section files

A section file lists the symbols of a library line by line, grouped by tags. `convert` wraps it in one
enclosing tag and leaves out the lines of standard subsections, the subsection tags and the comments.

A standard subsection opens on a line that holds the two words `SUBSECTION Standard`, and goes on to the
next line that holds the closing section tag. The opening line and the closing line themselves stay.
-/

namespace GirDoc.Sections

/-- The lines of a file; a newline ends a line, and text after the last one is a line too. -/
def lines (text : List Char) : List (List Char) :=
  let parts := Text.splitChars '\n' text
  match parts.getLast? with
  | some [] => parts.dropLast
  | _ => parts

/-- A letter, digit or underscore of ASCII. -/
def isWordChar (c : Char) : Bool :=
  c.isAlphanum || c = '_'

/-- Whether a text holds another one, from some place on. -/
def holds (part text : List Char) : Bool :=
  (List.range (text.length + 1)).any fun i => part.isPrefixOf (text.drop i)

/-- The two words that open a standard subsection. -/
def standardWords : List Char := "SUBSECTION Standard".toList

/-- Searches for `standardWords` standing on its own; `afterWord` tells whether a word character
stands just before. -/
def opensFrom (afterWord : Bool) : List Char → Bool
  | [] => false
  | c :: cs =>
    (!afterWord && standardWords.isPrefixOf (c :: cs)
      && !(((c :: cs).drop standardWords.length).head?.any isWordChar))
    || opensFrom (isWordChar c) cs

/-- Whether a line opens a standard subsection. -/
def opensStandard (line : List Char) : Bool := opensFrom false line

/-- Whether a line closes a section. -/
def closesSection (line : List Char) : Bool := holds "</SECTION>".toList line

/-- Leaves out the lines strictly inside standard subsections; `inside` tells whether one is open. -/
def dropStandard (inside : Bool) : List (List Char) → List (List Char)
  | [] => []
  | line :: rest =>
    if inside then
      if closesSection line then line :: dropStandard false rest else dropStandard true rest
    else line :: dropStandard (opensStandard line) rest

/-- The beginning of a subsection tag. -/
def subsectionTag : List Char := "<SUBSECTION".toList

/-- Whether a line is a subsection tag: it starts like one and has a closing bracket after that, or
it holds the closing tag. -/
def isSubsectionTag (line : List Char) : Bool :=
  (subsectionTag.isPrefixOf line && (line.drop subsectionTag.length).contains '>')
    || holds "</SUBSECTION>".toList line

/-- Whether a line is a comment. -/
def isComment (line : List Char) : Bool := ['#'].isPrefixOf line

/-- The lines that stay. A file with a NUL is not taken for text, and none of its lines stay. -/
def kept (file : List (List Char)) : List (List Char) :=
  let remaining := dropStandard false file
  if remaining.any (·.contains (Char.ofNat 0)) then []
  else remaining.filter fun line => !isSubsectionTag line && !isComment line

/-- A section file in its new form. -/
def convert (text : String) : String :=
  let body := kept (lines text.toList)
  String.ofList (List.flatten ((["<SECTIONS>".toList] ++ body ++ ["</SECTIONS>".toList]).map
    (· ++ ['\n'])))

end GirDoc.Sections
