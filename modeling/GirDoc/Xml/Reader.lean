import GirDoc.Text.Lines
import GirDoc.Xml.Content
import GirDoc.Xml.Doctype
import GirDoc.Xml.Encoding

/-!
# Reading documents

Documents with namespaces are read into elements. `read?` takes well-formed documents only, and `recover`
makes the best of any text.
-/

namespace GirDoc.Xml

/-! ## Documents -/

/-- Reads a document. -/
def document : Read Unit := do
  if ← acceptDeclaration then settings
  misc
  if ← accept "<!DOCTYPE" then
    doctype
    misc
  if ← isAt (· = '<') then
    element
    misc
    expect (← rest).isEmpty
  else fatal

/-- Where a document is, and what is around it. -/
structure Source where
  /-- The address of the document. -/
  address : String := ""
  /-- The directory of the document. -/
  directory : String := ""
  /-- The bytes at an address. -/
  fetch : String → Option (List UInt8) := fun _ => none

/-- What is known before a text is read. -/
def Source.start (source : Source) (text : List Char) : State :=
  { fetch := fun address => source.fetch (String.ofList address)
    directory := source.directory.toList
    layers := [{ rest := text, address := some source.address.toList }]
    steps := text.length + 1
    size := text.length }

/-- Closes the elements that are still open. -/
def closeAll : (count : Nat) → Read Unit
  | 0 => pure ()
  | count + 1 => do
    closeElement
    closeAll count

/-- The outermost element that was read. -/
def State.root? (st : State) : Option Element :=
  ((closeAll st.frames.length).run.run st).2.closed.getLast?

/-- The root of a document; `none` if it is not taken. -/
def root? (source : Source) (text : List Char) : Option Element :=
  if !text.all isAllowed then none
  else
    let (result, st) := document.run.run (source.start (Text.unifyNewlines text))
    if result.isSome && st.findings.areTaken then st.root? else none

/-- Reads a document from its bytes. -/
def read? (source : Source) (bytes : List UInt8) : Option Element :=
  (decode? bytes).bind (root? source)

/-- Reads a document as far as possible: its root, if it has one. Of nothing no document is made. -/
def recover (source : Source) (bytes : List UInt8) : Option (Option Element) :=
  let (sound, spoilt) := decodePart bytes
  match sound ++ spoilt with
  | [] | '\x00' :: _ => none
  | _ =>
    let spoilt := Text.unifyNewlines spoilt
    let start := source.start (Text.unifyNewlines sound ++ spoilt)
    let spoiltAt := if spoilt.isEmpty then none else some spoilt.length
    let (_, st) := document.run.run { start with recovers := true, spoiltAt }
    some st.root?

end GirDoc.Xml
