import GirDoc.FileTree
import GirDoc.SourceEncoding
import GirDoc.Text.Blank
import GirDoc.Text.Split

/-!
# Lines of sources

Two readings of a source. As text, it has lines that can be quoted, none if its bytes spell no text. As
bytes, each line is decoded by itself, so that comments can be found in any source.
-/

namespace GirDoc.SourceLines

/-- The lines of a source as text, without the marks that end them; `none` if it cannot be read. Some
encodings cannot be read at all. -/
def quotable (t : FileTree) (path : String) : Except SourceEncoding.Failure (Option (List String)) :=
  if path.isEmpty || (path.startsWith "<" && path.endsWith ">") then .ok none
  else match t.read path with
    | .error _ => .ok none
    | .ok bytes => match SourceEncoding.decode bytes with
      | .ok cs => .ok (some (Text.splitAll '\n' (String.ofList (Text.unifyNewlines cs))))
      | .error .notText => .ok none
      | .error e => .error e

/-- A line by its number, without blanks at its end; empty if there is no such line. -/
def line (lines : List String) (number : Nat) : String :=
  if number = 0 then "" else Text.trimEnd ((lines[number - 1]?).getD "")

/-- The lines from one number to another. -/
def range (lines : List String) (first last : Nat) : List String :=
  (List.range' first (last + 1 - first)).map (line lines)

/-- A line as text: UTF-8 if its bytes are, else one character a byte. Which encoding a line has is guessed, and the
guess is not a matter of this library. All that proofs use of it is that a line keeps its newlines
(`newlines_decodeLine`). -/
def decodeLine (bytes : List UInt8) : String :=
  match Text.Utf8.decode? bytes with
  | some s => s
  | none => String.ofList (bytes.map fun b => Char.ofNat b.toNat)

/-- The lines of a source, each decoded by itself, with the newlines that end them. -/
def decoded (bytes : List UInt8) : List String :=
  (Text.cutAfter (· = 10) bytes).map decodeLine

/-- The spaces at the start of a line. -/
def indent (line : String) : String :=
  String.ofList (line.toList.takeWhile (· = ' '))

end GirDoc.SourceLines
