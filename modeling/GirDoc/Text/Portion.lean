import GirDoc.Text.Lines
import GirDoc.Text.Utf8

/-!
# Lines that are read by portions

A file is read in portions, and its lines are used as they come. So the lines of the portions before the one
that spells no text are used before the fault is seen.
-/

namespace GirDoc.Text

/-- How many bytes are read at once. -/
def portionSize : Nat := 8192

/-- The lines of a file that come, each with the newline that ends it. -/
structure LinesRead where
  lines : List String
  /-- Whether they are all lines; else bytes follow that spell no text. -/
  isWhole : Bool

/-- How many bytes of a character stand at the front of bytes that stand for none. -/
def begunCount (bs : List UInt8) : Nat :=
  (([3, 2, 1].filter (· ≤ bs.length)).find? fun k => Utf8.isBegun (bs.take k)).getD 0

/-- How many bytes are read before the fault of bytes that spell no text is seen. A character that is only
begun is seen to be one at the end. -/
def soundCount (bs : List UInt8) : Nat :=
  let broken := (Utf8.decodeStart bs).2
  let sound := bs.length - broken.length + begunCount broken
  if sound = bs.length then sound else sound / portionSize * portionSize

/-- The characters of lines that are known to have ended: a return at the end may still belong to a
newline. -/
def endedText (cs : List Char) : List Char :=
  unifyNewlines (if cs.getLast? = some '\r' then cs.dropLast else cs)

/-- The lines of a file in UTF-8. -/
def readLines (bs : List UInt8) : LinesRead :=
  match Utf8.decodeChars? bs with
  | some cs => { lines := endedLines (String.ofList (unifyNewlines cs)), isWhole := true }
  | none =>
    let (cs, _) := Utf8.decodeStart (bs.take (soundCount bs))
    let lines := (cutAfter (· = '\n') (endedText cs)).filter fun line => line.getLast? = some '\n'
    { lines := lines.map String.ofList, isWhole := false }

end GirDoc.Text
