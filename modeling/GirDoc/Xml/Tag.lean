import GirDoc.Xml.Reference
import GirDoc.Xml.Uri

/-!
# Tags

A tag names an element and gives its attributes. Some of these declare namespaces, which the letters before
the colon of a name stand for.
-/

namespace GirDoc.Xml

/-! ## Names with namespaces -/

/-- A name with the letters before its colon, if it has one. -/
structure Name where
  letters : List Char := []
  plain : List Char
  deriving Repr, DecidableEq

/-- A name as it is written. -/
def Name.written (n : Name) : List Char :=
  if n.letters.isEmpty then n.plain else n.letters ++ ':' :: n.plain

/-- Cuts a name at its first colon. One that begins with a colon has no letters. -/
def Name.split (written : List Char) : Name :=
  match written with
  | ':' :: _ => ⟨[], written⟩
  | _ => match Text.cutChars ':' written with
    | some (letters, plain) => ⟨letters, plain⟩
    | none => ⟨[], written⟩

/-- A name as it was read. -/
structure NameRead where
  name : Name
  /-- Whether its colons are where they should be. -/
  isProper : Bool := true
  rest : List Char

/-- Reads on from where a name ceases to be proper: all of it is plain, as far as its characters go. -/
def Name.readLoosely (start cs : List Char) : NameRead :=
  let (more, rest) := (token? cs).getD ([], cs)
  { name := ⟨[], start ++ more⟩, isProper := false, rest }

/-- Reads a name. The colon, if there is one, should stand between two names. -/
def Name.read? (cs : List Char) : Option NameRead :=
  match simpleName? cs with
  | none => if cs.head? = some ':' then some (Name.readLoosely [] cs) else none
  | some (a, ':' :: more) => match simpleName? more with
    | none => some (Name.readLoosely (a ++ [':']) more)
    | some (b, rest) =>
      if rest.head? = some ':' then some (Name.readLoosely (a ++ ':' :: b) rest)
      else some { name := ⟨a, b⟩, rest }
  | some (a, rest) => some { name := ⟨[], a⟩, rest }

/-- Reads a name. That its colons are in other places than they should is an error. -/
def takeQualified : Read (Option Name) := do
  match Name.read? (← rest) with
  | none => return none
  | some r =>
    expect (r.name.letters.length ≤ longestName && r.name.plain.length ≤ longestName)
    goOn r.rest
    if !r.isProper then found .error
    return some r.name

/-- The letters that stand for what belongs to markup itself. -/
def xmlLetters : List Char := "xml".toList

/-- The letters, or the name, that declare a namespace. -/
def declaring : List Char := "xmlns".toList

/-- The namespace of the letters `xml`. -/
def xmlSpace : List Char := "http://www.w3.org/XML/1998/namespace".toList

/-- The namespace of namespace declarations. -/
def declarationSpace : List Char := "http://www.w3.org/2000/xmlns/".toList

/-- The letters that an attribute declares, if it is a declaration; the default namespace has none. -/
def Name.declares? (n : Name) : Option (List Char) :=
  if n.letters.isEmpty && n.plain = declaring then some []
  else if n.letters = declaring then some n.plain
  else none

/-- What an address is found to be. -/
def checkAddress (isDefault : Bool) (uri : List Char) : Read Unit :=
  match Uri.read? uri with
  | none => found .error
  | some address => if isDefault && !address.isAbsolute then found .warning else pure ()

/-- Whether letters may be declared to stand for a namespace, as far as the fixed ones go. -/
def checkDeclaration (letters uri : List Char) : Read Bool := do
  if letters.isEmpty then
    if !uri.isEmpty then checkAddress true uri
    if uri = xmlSpace || uri = declarationSpace then
      found .error
      return false
    return true
  else if letters = xmlLetters then
    if uri ≠ xmlSpace then found .error
    return false
  else if uri = xmlSpace || letters = declaring || uri = declarationSpace || uri.isEmpty then
    found .error
    return false
  else
    checkAddress false uri
    return true

/-- What the attributes of a tag are, last one first. -/
structure Attributes where
  bindings : Scope := []
  others : List (Name × List Char) := []

/-- Adds one attribute. -/
def Attributes.add (a : Attributes) (name : Name) (value : List Char) : Read Attributes := do
  match name.declares? with
  | none => return { a with others := (name, value) :: a.others }
  | some letters =>
    if !(← checkDeclaration letters value) then return a
    else if (a.bindings.lookup letters).isSome then
      fatal
      return a
    else return { a with bindings := (letters, { uri := value }) :: a.bindings }

/-- Whether a tag ends here. -/
def isTagEnd : Read Bool := do
  match ← rest with
  | '>' :: _ | '/' :: '>' :: _ => return true
  | _ => return false

/-- Looks at the attribute that says how white space is treated. -/
def checkSpaceAttribute (name : Name) (value : List Char) : Read Unit :=
  if name = ⟨xmlLetters, "space".toList⟩ && value ≠ "default".toList && value ≠ "preserve".toList then
    found .warning
  else pure ()

/-- Reads one attribute of an element. -/
def attributeOf (element : List Char) (a : Attributes) (name : Name) : Read Attributes := do
  let type := (((← get).declared.lookup (element, name.written)).map (·.type)).getD .text
  let _ ← blanks
  if ← accept "=" then
    let _ ← blanks
    match ← attributeValue (type ≠ .text) with
    | some value =>
      checkSpaceAttribute name value
      a.add name value
    | none => return a
  else
    fatal
    return a

/-- Reads the attributes of an element up to the end of its tag. -/
def attributesFrom (element : List Char) : (fuel : Nat) → Attributes → Read Attributes
  | 0, a => return a
  | fuel + 1, a => do
    if (← isTagEnd) || !(← isAt isAllowed) then return a
    match ← takeQualified with
    | none =>
      fatal
      return a
    | some name =>
      let a ← attributeOf element a name
      if ← isTagEnd then return a
      if !(← blanks) then
        fatal
        return a
      attributesFrom element fuel a

/-! ## Resolving names -/

/-- An attribute with the namespace of its name. -/
structure Resolved where
  name : Name
  uri : Option (List Char)
  value : List Char
  /-- Whether the namespace was declared in the same text. -/
  isNear : Bool := true

/-- A name with its namespace, as elements and attributes are looked up by it. -/
def Name.shown (name : Name) (uri : Option (List Char)) (isNear : Bool) : String :=
  match uri with
  | none => String.ofList name.written
  | some uri =>
    if isNear then qualified (String.ofList uri) (String.ofList name.plain)
    else String.ofList name.plain

/-- Finds the namespace of an attribute. -/
def resolve (scope : Scope) (name : Name) (value : List Char) : Read Resolved := do
  if name.letters.isEmpty then return { name, uri := none, value }
  else if name.letters = xmlLetters then return { name, uri := some xmlSpace, value }
  else match scope.lookup name.letters with
    | some b => return { name, uri := some b.uri, value, isNear := b.isNear }
    | none =>
      found .error
      return { name, uri := none, value }

/-- Whether the letters of an attribute stand for nothing. -/
def Resolved.isLost (a : Resolved) : Bool := a.uri.isNone && !a.name.letters.isEmpty

/-- Whether two attributes have one name in one namespace. -/
def Resolved.clashes (a b : Resolved) : Bool := a.name.plain = b.name.plain && a.uri = b.uri

/-- The letters of the attributes that clash with one before, and of those. -/
def clashesFrom : List Resolved → List Resolved → List (List Char × List Char)
  | _, [] => []
  | before, a :: rest =>
    match before.find? (·.clashes a) with
    | some b => (a.name.letters, b.name.letters) :: clashesFrom before rest
    | none => clashesFrom (before ++ [a]) rest

/-- Looks for names that are given twice. -/
def checkDistinct (given : List Resolved) : Read Unit := do
  let known := given.filter (!·.isLost)
  let clashes := clashesFrom [] known
  clashes.forM fun (a, b) => found (if a = b then .fatal else .error)
  if clashes.all (fun (a, b) => a ≠ b) && 1 < clashes.length then
    expect ((known.map (·.name)).eraseDups.length = known.length)

/-- Looks at the attributes that the document type gives to an element, besides those that it has. -/
def checkDefaults (scope : Scope) : List (Name × List Char) → List Resolved → Read Unit
  | [], _ => pure ()
  | (name, value) :: rest, given => do
    let a ← resolve scope name value
    match given.find? (·.clashes a) with
    | some b =>
      if a.name.letters ≠ b.name.letters then found .error
      checkDefaults scope rest given
    | none => checkDefaults scope rest (given ++ [a])

/-- The namespaces that the document type gives to an element, besides those of its tag. -/
def defaultBindings (defaults : List (Name × List Char)) (given : Scope) : Scope :=
  defaults.foldl (fun bindings (name, value) =>
    match name.declares? with
    | some letters =>
      if (bindings.lookup letters).isSome then bindings
      else (letters, { uri := value }) :: bindings
    | none => bindings) given

/-- The values that the document type gives to attributes, by the names that they are looked up by. -/
def fallbacksIn (scope : Scope) (declared : List (Name × Declared)) : List (String × String) :=
  declared.filterMap fun (name, d) => do
    let value ← d.fallback?
    let key ←
      if name.letters.isEmpty then some (name.shown none true)
      else if name.letters = xmlLetters then some (name.shown xmlSpace true)
      else (scope.lookup name.letters).map fun b => name.shown b.uri true
    some (key, String.ofList value)

/-- Notes an identifier; each is given once. -/
def addId (value : List Char) : Read Unit := do
  if !value.isEmpty then
    if (← get).ids.contains value then found .error
    else modify fun st => { st with ids := value :: st.ids }

/-- Looks at an attribute that may be an identifier. -/
def checkId (element : List Char) (a : Resolved) : Read Unit := do
  if a.name = ⟨xmlLetters, "id".toList⟩ then
    if !isSimpleName a.value then found .error
    addId a.value
  else if ((← get).declared.lookup (element, a.name.written)).any (·.type = .id) then addId a.value

/-! ## Elements -/

/-- Elements are inside each other so many times. -/
def deepestElement : Nat := 256

/-- What is declared of the attributes of an element. -/
def State.declaredOf (st : State) (element : List Char) : List (Name × Declared) :=
  st.declared.filterMap fun (key, d) => if key.1 = element then some (Name.split key.2, d) else none

/-- Opens an element whose tag was read. Identifiers count only in the document itself. -/
def openElement (name : Name) (a : Attributes) : Read Unit := do
  let st ← get
  let defaults := (st.declaredOf name.written).filterMap fun (name, d) => d.value.map (name, ·)
  let scope := defaultBindings defaults a.bindings ++ st.scope
  let given ← a.others.reverse.mapM fun (name, value) => resolve scope name value
  checkDistinct given
  checkDefaults scope (defaults.filter fun (name, _) => name.declares?.isNone)
    (given.filter (!·.isLost))
  let binding := if name.letters = xmlLetters then some { uri := xmlSpace } else scope.lookup name.letters
  let binding := binding.filter (!·.uri.isEmpty)
  if binding.isNone && !name.letters.isEmpty then found .error
  let isNear := binding.all (·.isNear)
  if !isNear then found .warning
  if !st.isInEntity then given.forM (checkId name.written)
  let frame : Frame :=
    { written := name.written
      tag := name.shown (binding.map (·.uri)) isNear
      attributes := given.map fun a => (a.name.shown a.uri a.isNear, String.ofList a.value)
      fallbacks := fallbacksIn (if isNear then scope else scope.filter (·.1 ≠ name.letters))
        (st.declaredOf (if isNear then name.written else name.plain))
      scope := st.scope }
  modify fun st => { st with frames := frame :: st.frames, scope }

/-- Adds elements and texts to what the innermost open element holds. -/
def addContent (elements : List Element) (texts : List (List Char)) : Read Unit :=
  modify fun st => match st.frames with
    | frame :: frames =>
      let frame := { frame with
        children := elements.reverse ++ frame.children
        texts := texts.reverse ++ frame.texts }
      { st with frames := frame :: frames }
    | [] => { st with
        closed := elements.reverse ++ st.closed
        texts := texts.reverse ++ st.texts }

/-- Closes the innermost element. -/
def closeElement : Read Unit := do
  match (← get).frames with
  | [] => pure ()
  | frame :: frames =>
    let text := frame.texts.reverse.flatten
    let e := Element.mk frame.tag frame.attributes frame.children.reverse
      { fallbacks := frame.fallbacks, text := String.ofList text }
    modify fun st => { st with frames, scope := frame.scope }
    addContent [e] [text]

/-- Reads the tag that begins an element. -/
def startTag : Read Unit := do
  let st ← get
  if deepestElement < st.frames.length + st.around then halt
  skip
  match ← takeQualified with
  | none => fatal
  | some name =>
    let _ ← blanks
    let a ← attributesFrom name.written st.steps {}
    openElement name a
    if ← accept "/>" then closeElement
    else if !(← accept ">") then
      fatal
      closeElement

/-- Reads the tag that ends an element. -/
def endTag : Read Unit := do
  let _ ← accept "</"
  match (← get).frames with
  | [] => pure ()
  | frame :: _ =>
    let name ← takeName
    let _ ← blanks
    expect (← accept ">")
    expect (name = some frame.written)
    closeElement

end GirDoc.Xml
