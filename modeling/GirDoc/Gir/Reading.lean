import GirDoc.Attempt
import GirDoc.Gir.Document
import GirDoc.Gir.Index
import GirDoc.Gir.Vocabulary
import GirDoc.Text.Letters

/-!
# Reading introspection files

A file is read into the index element by element, and then the files that it includes, each of them once.
An included file that is not found is only reported.
-/

namespace GirDoc.Gir

open Xml

/-- Where introspection files are found. -/
structure Sources where
  files : FileTree
  listed : List String
  /-- The directories of shared data. -/
  dataDirs : List String

/-- The state of a reading: the index, and the names of the files that were not found. -/
structure Reading where
  index : Index
  missing : List String := []

/-- A step of a reading. -/
abbrev Read (α : Type) := Attempt Reading α

/-! ## Names of elements -/

/-- The names of the elements around one, outermost first, up to the first that has none. -/
def outerNames (ancestors : List Element) : List String :=
  (ancestors.map fun e => e.attribute? "name").takeWhile Option.isSome |>.reverse |>.filterMap id

/-- The parts of the namespaced name of an element. -/
def nameParts (n : Node) : Except Fault (List String) :=
  match n.attribute? "name" with
  | some name => .ok (outerNames n.ancestors ++ [name])
  | none => .error .missingKey

/-- The macros that a class has, from the lead of its namespace and its own name. -/
def classMacros (lead name : String) : List String :=
  [lead ++ "_IS_" ++ name, lead ++ "_TYPE_" ++ name, lead ++ "_" ++ name,
    lead ++ "_" ++ name ++ "_CLASS", lead ++ "_IS_" ++ name ++ "_CLASS",
    lead ++ "_" ++ name ++ "_GET_CLASS", lead ++ "_" ++ name ++ "_GET_IFACE"].map Text.upper

/-- The name under which a member of a class is kept. -/
def memberName (owner : Option String) (mark name : String) : String :=
  spelled owner ++ mark ++ name

/-! ## Elements -/

/-- An attribute that has to be there. -/
def required (n : Node) (key : String) : Read String :=
  Attempt.need .missingKey (n.attribute? key)

/-- Changes the index. -/
def change (f : Index → Index) : Read Unit :=
  modify fun r => { r with index := f r.index }

/-- Notes the element of something that C identifies. -/
def readIdentified (n : Node) : Read Unit :=
  match n.ownAttribute? (c "identifier") with
  | some name => change (·.putNode name n)
  | none => return

/-- Notes a class; `lead` begins the names of the symbols of its namespace. -/
def readClass (lead name : String) (n : Node) (htype : (n.attribute? (c "type")).isSome) : Read Unit := do
  let key := ".".intercalate (← Attempt.ofExcept (nameParts n))
  change fun x => { x.putClass key n htype with
    typeFunctions := insertNew x.typeFunctions (n.attribute? (glib "get-type"))
    nodes := Value.put x.nodes (name ++ "::" ++ name) n }
  let own ← required n (c "symbol-prefix")
  change fun x => { x with macroNames := (classMacros lead own).foldl insertNew x.macroNames }

/-- Notes the element of a type. -/
def readTyped (lead : String) (n : Node) : Read Unit := do
  if n.tag = core "type" || n.tag = core "array" then return
  match htype : n.ownAttribute? (c "type") with
  | none => return
  | some name =>
    change (·.putNode name n)
    if isClass n then readClass lead name n (Option.isSome_of_eq_some (Node.attribute?_of_own htype))

/-- Notes the elements of one kind of member by the class around them. -/
def readMember (tag mark : String) (n : Node) : Read Unit := do
  if n.tag ≠ tag then return
  let name ← required n "name"
  change (·.putNode (memberName (n.parent?.bind typeName?) mark name) n)

/-- Notes all elements of a file. -/
def readElements (root : Node) : Read Unit := do
  let space ← Attempt.need .noSuchPart (root.child? (core "namespace"))
  let _ ← required space (c "identifier-prefixes")
  let lead ← required space (c "symbol-prefixes")
  let below := root.descendants
  below.forM readIdentified
  below.forM (readTyped lead)
  below.forM (readMember (core "property") ":")
  below.forM (readMember (glib "signal") "::")
  below.forM (readMember (core "virtual-method") ":::")

/-! ## Files -/

/-- The name of the file that an include names. -/
def includedName (name version : String) : String := name ++ "-" ++ version ++ ".gir"

/-- Where the file of a name is found: among the sources, else among the shared data. -/
def Sources.find? (l : Sources) (name : String) : Option String :=
  match l.listed.find? fun s => Path.base s = name with
  | some source => some source
  | none => (l.dataDirs.map fun d => Path.joinAll d ["gir-1.0", name]).find? l.files.pathExists

/-- Opens the file that an include names: its document, unless it was opened by an include before. A file
that is not found is noted. -/
def openInclude (l : Sources) (e : Element) : Read (Option Element) := do
  let name ← Attempt.need .missingKey (e.attribute? "name")
  let version ← Attempt.need .missingKey (e.attribute? "version")
  let file := includedName name version
  match l.find? file with
  | none =>
    modify fun r => { r with missing := r.missing ++ [file] }
    return none
  | some path =>
    if path ∈ (← get).index.parsed then return none
    change fun x => { x with parsed := x.parsed ++ [path] }
    return some (← Attempt.ofExcept (readDocument l.files path))

/-- A reading that follows includes. It has no outcome if they never come to an end. -/
abbrev Follow (α : Type) := ExceptT Fault (StateT Reading Option) α

/-- A step of a reading always comes to an end. -/
def Follow.ofRead {α : Type} (m : Read α) : Follow α :=
  ExceptT.mk fun r => some (m.start r)

/-- Reads a file and those that it includes. -/
def Sources.readFile (l : Sources) (root : Element) : Follow Unit := do
  Follow.ofRead (readElements ⟨root, []⟩)
  (root.childrenOf (core "include")).forM fun e => do
    match ← Follow.ofRead (openInclude l e) with
    | none => return
    | some inner => l |>.readFile inner
partial_fixpoint

/-- Reads all sources. -/
def readSources (l : Sources) : Follow Unit :=
  l.listed.forM fun source => do
    l.readFile (← Follow.ofRead (Attempt.ofExcept (readDocument l.files source)))

end GirDoc.Gir
