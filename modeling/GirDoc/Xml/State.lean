import GirDoc.Xml.Character
import GirDoc.Xml.Element

/-!
# The state of a reading

What is known while a document is read, and the steps that all of its parts are read by.

A fatal finding ends the reading of a document, unless it is read as far as possible (`State.recovers`).
-/

namespace GirDoc.Xml

/-! ## Findings -/

/-- How grave a finding is. -/
inductive Severity where
  /-- Something to remark on. -/
  | warning
  /-- Something against the rules of namespaces or identifiers. -/
  | error
  /-- Something that no document holds. -/
  | fatal
  deriving Repr, DecidableEq

/-- What was found so far. -/
structure Findings where
  isWellFormed : Bool := true
  /-- The gravity of the last finding that counts. -/
  last : Option Severity := none
  warnings : Nat := 0
  errors : Nat := 0
  deriving Repr

namespace Findings

/-- So many remarks count, and so many graver findings. -/
def limit : Nat := 100

/-- Adds a finding. -/
def note (f : Findings) (s : Severity) : Findings :=
  let f := { f with isWellFormed := f.isWellFormed && s != .fatal }
  if s = .warning then
    if limit ≤ f.warnings then f else { f with last := some s, warnings := f.warnings + 1 }
  else if limit ≤ f.errors then f else { f with last := some s, errors := f.errors + 1 }

/-- A document is taken if it is well formed and the last finding is no more than a remark. -/
def areTaken (f : Findings) : Bool :=
  f.isWellFormed && f.last != some .error && f.last != some .fatal

/-- A fatal finding is never forgotten. -/
theorem isWellFormed_note (f : Findings) (s : Severity) :
    (f.note s).isWellFormed = (f.isWellFormed && s != .fatal) := by
  simp only [note]
  split <;> split <;> rfl

end Findings

/-! ## State -/

/-- What an entity stands for. -/
inductive Entity where
  /-- A text. -/
  | inside (text : List Char)
  /-- What is found at an address, if it has a proper one. -/
  | outside (address : Option (List Char))
  /-- Something that is not markup. -/
  | unparsed
  deriving Repr

/-- The text that is read: the document, or what a parameter entity in it stands for. -/
structure Layer where
  rest : List Char
  /-- Tells one layer from another. -/
  place : Nat := 0
  entity : Option (List Char) := none
  /-- The address of the text, if it was not given in another one. -/
  address : Option (List Char) := none
  deriving Repr

/-- What the values of an attribute are declared to be. -/
inductive ValueType where
  | text | id | name | names | token | tokens
  deriving Repr, DecidableEq

/-- Whether a default value is of its type. -/
def ValueType.holds : ValueType → List Char → Bool
  | text, _ => true
  | id, cs | name, cs => isName cs
  | names, cs => allWords isName cs
  | token, cs => isToken cs
  | tokens, cs => allWords isToken cs

/-- What is declared of an attribute. -/
structure Declared where
  type : ValueType
  /-- The default value. -/
  value : Option (List Char) := none
  deriving Repr

/-- The default value of an attribute, if it is of its type. -/
def Declared.fallback? (d : Declared) : Option (List Char) := d.value.filter d.type.holds

/-- The namespace that letters stand for. -/
structure Binding where
  uri : List Char
  /-- Whether it was declared in the same text, and not around an entity. -/
  isNear : Bool := true
  deriving Repr

/-- The namespaces in scope, by the letters that stand for them; the default one has none. -/
abbrev Scope := List (List Char × Binding)

/-- An element that is still open, with its children so far, last one first. -/
structure Frame where
  written : List Char
  tag : String
  attributes : List (String × String)
  fallbacks : List (String × String) := []
  scope : Scope
  children : List Element := []
  /-- The parts of its text so far, last one first. -/
  texts : List (List Char) := []

/-- What an entity stands for in content. -/
structure Contents where
  elements : List Element
  texts : List (List Char)
  /-- How much it is. -/
  cost : Nat

/-- What is known while a document is read. -/
structure State where
  /-- Whether fatal findings are passed over. -/
  recovers : Bool := false
  /-- The bytes at an address. -/
  fetch : List Char → Option (List UInt8) := fun _ => none
  /-- The directory of the document. -/
  directory : List Char := []
  /-- The texts that are read, innermost first. -/
  layers : List Layer := []
  /-- How many layers there have been. -/
  places : Nat := 0
  /-- A bound on the steps through one text. -/
  steps : Nat := 0
  findings : Findings := {}
  /-- How much of the document is left where the first bytes stand that are no character. -/
  spoiltAt : Option Nat := none
  /-- Whether what an entity stands for is read, and not the document itself. -/
  isInEntity : Bool := false
  isStandalone : Bool := false
  /-- Whether a part of the document type stands outside of the document. -/
  hasOutside : Bool := false
  /-- Whether a parameter entity was used. -/
  hasParameters : Bool := false
  entities : List (List Char × Entity) := []
  parameters : List (List Char × Entity) := []
  /-- The elements that are declared. -/
  elements : List (List Char) := []
  /-- The attributes that are declared, by element and attribute. -/
  declared : List ((List Char × List Char) × Declared) := []
  /-- The identifiers of elements. -/
  ids : List (List Char) := []
  /-- What the entities that were used in content stand for. -/
  contents : List (List Char × Contents) := []
  /-- The entities that are being read. -/
  expanding : List (List Char) := []
  /-- Whether entities were found that stand for each other. -/
  isEndless : Bool := false
  /-- How many characters stand for entities. -/
  expanded : Nat := 0
  /-- The length of the document. -/
  size : Nat := 0
  scope : Scope := []
  /-- The open elements, innermost first. -/
  frames : List Frame := []
  /-- The number of elements around the outermost open one. -/
  around : Nat := 0
  /-- The outermost elements that are closed, last one first. -/
  closed : List Element := []
  /-- The parts of the text around them, last one first. -/
  texts : List (List Char) := []

/-- A step of reading; without result if reading cannot go on. -/
abbrev Read := OptionT (StateM State)

/-- Notes a finding. -/
def found (s : Severity) : Read Unit := do
  modify fun st => { st with findings := st.findings.note s }
  if s = .fatal && !(← get).recovers then failure

/-- Notes a fatal finding. -/
def fatal : Read Unit := found .fatal

/-- Notes a fatal finding if a condition fails. -/
def expect (b : Bool) : Read Unit := if b then pure () else fatal

/-- Notes a fatal finding after which nothing more is read. -/
def halt {α : Type} : Read α := do
  fatal
  failure

/-- Notes that entities stand for each other, or for too much, after which nothing more is read. -/
def haltEndless {α : Type} : Read α := do
  modify fun st => { st with isEndless := true }
  halt

/-- Counts what an entity stands for. A small document does not stand for a very large one. -/
def countExpanded (n : Nat) : Read Unit := do
  modify fun st => { st with expanded := st.expanded + n + 20 }
  let st ← get
  if 1000000 < st.expanded && 5 * st.size < st.expanded then haltEndless

/-! ## The text to be read -/

/-- The text from here on. -/
def rest : Read (List Char) := do
  match (← get).layers with
  | layer :: _ => return layer.rest
  | [] => return []

/-- Goes on with a text. -/
def goOn (cs : List Char) : Read Unit :=
  modify fun st => match st.layers with
    | layer :: layers => { st with layers := { layer with rest := cs } :: layers }
    | [] => st

/-- Takes a mark if it stands here. -/
def accept (mark : String) : Read Bool := do
  match after? mark.toList (← rest) with
  | some more => goOn more; return true
  | none => return false

/-- Whether the next character is one of these. -/
def isAt (p : Char → Bool) : Read Bool := return (← rest).head?.any p

/-- Takes the next character. -/
def skip : Read Unit := do goOn ((← rest).drop 1)

/-- The place of the layer that is read. -/
def place : Read Nat := return ((← get).layers.head?.map (·.place)).getD 0

/-- Whether what a parameter entity stands for is read. -/
def isInParameter : Read Bool := return 1 < (← get).layers.length

/-- Entities are inside each other so many times. -/
def deepest : Nat := 40

/-- Puts a text in front of what is read. -/
def enter (entity text : List Char) (address : Option (List Char)) : Read Unit := do
  if deepest < (← get).layers.length then haltEndless
  countExpanded text.length
  modify fun st => { st with
    layers := { rest := text, place := st.places + 1, entity := some entity, address } :: st.layers
    places := st.places + 1 }

/-- Leaves the innermost text. -/
def leave : Read Unit := modify fun st => { st with layers := st.layers.drop 1 }

/-- A name has so many characters at most. -/
def longestName : Nat := 50000

/-- Reads what `read?` finds here. -/
def take? (read? : List Char → Option (List Char × List Char)) : Read (Option (List Char)) := do
  match read? (← rest) with
  | none => return none
  | some (name, more) =>
    expect (name.length ≤ longestName)
    goOn more
    return some name

/-- Reads a name if one stands here. -/
def takeName : Read (Option (List Char)) := take? name?

/-- Whether names have to be declared in the document itself. -/
def State.isComplete (st : State) : Bool :=
  st.isInEntity || st.isStandalone || (!st.hasOutside && !st.hasParameters)

/-- Whether nothing fatal was found up to here. -/
def State.isSound (st : State) : Bool :=
  st.findings.isWellFormed
    && st.spoiltAt.all fun left => left ≤ (st.layers.getLast?.map (·.rest.length)).getD 0

/-- The address that other addresses are seen from here. -/
def State.base (st : State) : List Char :=
  (st.layers.head?.bind (·.address)).getD st.directory

/-- Skips white space, and nothing else. -/
def plainBlanks : Read Bool := do
  let cs ← rest
  goOn (cs.dropWhile isSpace)
  return cs.head?.any isSpace

end GirDoc.Xml
