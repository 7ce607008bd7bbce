import GirDoc.Xml.Address
import GirDoc.Xml.Reference

/-!
# Document types

The declarations before the root of a document: entities, elements, attributes and notations. Entities, and
the types and default values of attributes, bear on what the document is read as; of the rest only the form
is looked at.
-/

namespace GirDoc.Xml

/-! ## Identifiers -/

/-- Reads a text between quotes whose characters fit. -/
def literal (fits : Char → Bool) : Read (Option (List Char)) := do
  match ← rest with
  | q :: more =>
    if q = '\x22' || q = '\x27' then
      let inside (c : Char) : Bool := fits c && c ≠ q
      goOn (more.dropWhile inside)
      expect (← accept (String.singleton q))
      return some (more.takeWhile inside)
    else
      fatal
      return none
  | [] =>
    fatal
    return none

/-- Where something outside of the document is found. -/
structure ExternalId where
  isPublic : Bool := false
  address : Option (List Char) := none

/-- Reads where something is found. A notation may go without an address. -/
def externalId (needsAddress : Bool) : Read ExternalId := do
  if ← accept "SYSTEM" then
    needBlanks
    return { address := ← literal isAllowed }
  else if ← accept "PUBLIC" then
    needBlanks
    let _ ← literal isPublicChar
    let hasBlanks ← blanks
    if needsAddress then
      expect hasBlanks
      return { isPublic := true, address := ← literal isAllowed }
    else if hasBlanks && (← isAt fun c => c = '\x22' || c = '\x27') then
      return { isPublic := true, address := ← literal isAllowed }
    else return { isPublic := true }
  else return {}

/-- A declaration ends here, in the text in which it began. -/
def endDeclaration (start : Nat) : Read Unit := do
  let _ ← blanks
  if ← isAt (· = '>') then
    expect ((← place) = start)
    skip
  else fatal

/-! ## Entities -/

/-- Whether the marks of references in the value of an entity are used for nothing else. -/
def hasProperMarks (allowsParameters : Bool) : List Char → Bool
  | [] => true
  | '&' :: '#' :: rest => hasProperMarks allowsParameters rest
  | c :: rest =>
    if c = '%' || c = '&' then
      (c = '&' || allowsParameters)
        && ((name? rest).any fun (_, more) => more.head? = some ';')
        && hasProperMarks allowsParameters rest
    else hasProperMarks allowsParameters rest

/-- Reads the value of an entity between quotes. -/
def entityValue : Read (Option (List Char)) := do
  match ← literal isAllowed with
  | none => return none
  | some text =>
    if !hasProperMarks (← isInParameter) text then
      fatal
      return none
    let st ← get
    expand .parameters st.levels (st.layers.filterMap (·.entity)) text

/-- What is found at an address, which points to a whole resource and is seen from the text that gives it. -/
def entityAt (address : List Char) : Read (Option Entity) := do
  match Uri.read? address with
  | none =>
    found .error
    return none
  | some uri =>
    expect (!uri.hasFragment)
    let st ← get
    return if uri.hasFragment then none else some (.outside (Uri.resolve? st.base address))

/-- Keeps the first of several declarations. -/
def declareFirst {α β : Type} [BEq α] (table : List (α × β)) (key : α) (value : β) : List (α × β) :=
  if (table.lookup key).isSome then table else table ++ [(key, value)]

/-- Declares an entity. -/
def declareEntity (isParameter : Bool) (name : List Char) (entity : Entity) : Read Unit :=
  modify fun st =>
    if isParameter then { st with parameters := declareFirst st.parameters name entity }
    else { st with entities := declareFirst st.entities name entity }

/-- Reads what a parameter entity stands for. -/
def parameterDefinition (name : List Char) : Read Unit := do
  if ← isAt fun c => c = '\x22' || c = '\x27' then
    match ← entityValue with
    | some text => declareEntity true name (.inside text)
    | none => pure ()
  else
    let where_ ← externalId true
    match where_.address with
    | none => fatal
    | some address => match ← entityAt address with
      | some entity => declareEntity true name entity
      | none => pure ()

/-- Reads what a general entity stands for. -/
def entityDefinition (name : List Char) : Read Unit := do
  if ← isAt fun c => c = '\x22' || c = '\x27' then
    match ← entityValue with
    | some text => declareEntity false name (.inside text)
    | none => pure ()
  else
    let where_ ← externalId true
    match where_.address with
    | none => fatal
    | some address => let _ ← entityAt address
    if !(← isAt (· = '>')) then needBlanks
    if ← accept "NDATA" then
      needBlanks
      let _ ← takeName
      declareEntity false name .unparsed
    else declareEntity false name (.outside where_.address)

/-- Reads the declaration of an entity after its keyword. -/
def entityDeclaration (start : Nat) : Read Unit := do
  needBlanks
  let isParameter ← accept "%"
  if isParameter then needBlanks
  match ← takeName with
  | none => fatal
  | some name =>
    if name.contains ':' then found .error
    needBlanks
    if isParameter then parameterDefinition name else entityDefinition name
    let _ ← blanks
    if !(← isAt (· = '>')) then halt
    endDeclaration start

/-! ## Elements -/

/-- Reads how often something may occur. -/
def skipOccurrence : Read Unit := do
  if ← isAt fun c => c = '?' || c = '*' || c = '+' then skip

/-- Reads what an element may hold, with text in between, after the first word. -/
def mixedFrom (start : Nat) : (fuel : Nat) → Bool → Read Bool
  | 0, _ => return false
  | fuel + 1, hasNames => do
    let _ ← blanks
    if ← accept "|" then
      let _ ← blanks
      match ← takeName with
      | none =>
        fatal
        return false
      | some _ => mixedFrom start fuel true
    else if ← accept ")" then
      expect ((← place) = start)
      let isRepeated ← accept "*"
      expect (isRepeated || !hasNames)
      return isRepeated || !hasNames
    else
      fatal
      return false

/-- Reads the elements that an element may hold, after a bracket; `fuel` bounds the steps and so the depth
of brackets. `separator` is the mark between the ones before, and `isFirst` tells that there is none. -/
def childrenFrom : (fuel : Nat) → (depth : Nat) → (start : Nat) → (separator : Option Char) → Read Bool
  | 0, _, _, _ => return false
  | fuel + 1, depth, start, separator => do
    if deepestModel < depth then
      fatal
      return false
    let _ ← blanks
    let isRead ← do
      if ← accept "(" then
        childrenFrom fuel (depth + 1) (← place) none
      else match ← takeName with
        | none =>
          fatal
          pure false
        | some _ =>
          skipOccurrence
          pure true
    if !isRead then return false
    let _ ← blanks
    match ← rest with
    | ')' :: _ =>
      expect ((← place) = start)
      skip
      skipOccurrence
      return true
    | c :: _ =>
      if (c = ',' || c = '|') && (separator.isNone || separator = some c) then
        skip
        childrenFrom fuel depth start (some c)
      else
        fatal
        return false
    | [] =>
      fatal
      return false
where
  /-- Brackets are inside each other so many times. -/
  deepestModel : Nat := 128

/-- Reads what an element may hold. -/
def contentModel : Read Bool := do
  let start ← place
  if ← accept "EMPTY" then return true
  else if ← accept "ANY" then return true
  else if ← accept "(" then
    let _ ← blanks
    if ← accept "#PCDATA" then mixedFrom start (← get).steps false
    else childrenFrom (← get).steps 1 start none
  else
    fatal
    return false

/-- Reads the declaration of an element after its keyword. Each is declared once. -/
def elementDeclaration (start : Nat) : Read Unit := do
  if !(← blanks) then fatal
  else match ← takeName with
    | none => fatal
    | some name =>
      needBlanks
      let _ ← contentModel
      endDeclaration start
      if (← get).elements.contains name then found .error
      else modify fun st => { st with elements := name :: st.elements }

/-! ## Attributes -/

/-- Reads names between brackets, each of which should be given once. -/
def choicesFrom (take : Read (Option (List Char))) : (fuel : Nat) → List (List Char) → Read Bool
  | 0, _ => return false
  | fuel + 1, names => do
    let _ ← blanks
    match ← take with
    | none =>
      fatal
      return false
    | some name =>
      if names.contains name then found .error
      let _ ← blanks
      if ← accept "|" then choicesFrom take fuel (name :: names)
      else
        let isClosed ← accept ")"
        expect isClosed
        return isClosed

/-- The words for types of values. A word that begins another comes after it. -/
def typeWords : List (String × ValueType) :=
  [("CDATA", .text), ("IDREFS", .names), ("IDREF", .name), ("ID", .id), ("ENTITY", .name),
    ("ENTITIES", .names), ("NMTOKENS", .tokens), ("NMTOKEN", .token)]

/-- Reads one of several words. -/
def acceptOne {α : Type} : List (String × α) → Read (Option α)
  | [] => return none
  | (word, a) :: words => do
    if ← accept word then return some a
    acceptOne words

/-- Reads the type of an attribute. -/
def valueType : Read (Option ValueType) := do
  match ← acceptOne typeWords with
  | some type => return some type
  | none =>
    let isNamed ← accept "NOTATION"
    if isNamed && !(← blanks) then
      fatal
      return none
    else if !(← accept "(") then
      fatal
      return none
    else
      let isRead ← choicesFrom (if isNamed then takeName else take? token?) (← get).steps []
      return if isRead then some (if isNamed then .name else .tokens) else none

/-- Drops the spaces around a value and all but one of those inside. -/
def collapse (cs : List Char) : List Char :=
  [' '].intercalate ((Text.splitChars ' ' cs).filter (!·.isEmpty))

/-- Reads whether an attribute has a default value, and which. -/
def defaultValue : Read (Option (Option (List Char))) := do
  if ← accept "#REQUIRED" then return some none
  else if ← accept "#IMPLIED" then return some none
  else
    if ← accept "#FIXED" then needBlanks
    match ← attributeValue false with
    | some value => return some (some value)
    | none => return none

/-- Whether what follows the first colon of a name can be a name, or there is no such thing. -/
def isDivisible (name : List Char) : Bool :=
  match name with
  | ':' :: _ => true
  | _ => match Text.cutChars ':' name with
    | some (_, c :: _) => isLetter c || c = '_' || c = ':'
    | _ => true

/-- Declares an attribute of an element. The first declaration counts. -/
def declareAttribute (element name : List Char) (d : Declared) : Read Unit := do
  let key := (element, name)
  let st ← get
  if name = "xml:id".toList && d.type ≠ .id then found .error
  expect (isDivisible name)
  if !d.value.all d.type.holds then found .error
  if (st.declared.lookup key).isSome then found .warning
  else
    if d.type = .id && st.declared.any (fun (other, d) => other.1 = element && d.type = .id) then
      found .error
    modify fun st => { st with declared := st.declared ++ [(key, d)] }

/-- Reads the attributes of a declaration. -/
def attributeDeclarationsFrom (element : List Char) : (fuel : Nat) → Read Unit
  | 0 => pure ()
  | fuel + 1 => do
    if ← isAt (· = '>') then return
    match ← takeName with
    | none => fatal
    | some name =>
      if !(← blanks) then
        fatal
        return
      let some type ← valueType | return
      if !(← blanks) then
        fatal
        return
      let some value ← defaultValue | return
      let value := value.map fun value => if type = .text then value else collapse value
      if !(← isAt (· = '>')) && !(← blanks) then
        fatal
        return
      declareAttribute element name { type, value }
      attributeDeclarationsFrom element fuel

/-- Reads the declaration of attributes after its keyword. -/
def attributeDeclaration (start : Nat) : Read Unit := do
  needBlanks
  match ← takeName with
  | none => fatal
  | some element =>
    let _ ← blanks
    attributeDeclarationsFrom element (← get).steps
    if ← isAt (· = '>') then
      expect ((← place) = start)
      skip

/-! ## Notations -/

/-- Reads the declaration of a notation after its keyword. -/
def notationDeclaration (start : Nat) : Read Unit := do
  if !(← blanks) then fatal
  else match ← takeName with
    | none => fatal
    | some name =>
      if name.contains ':' then found .error
      if !(← blanks) then fatal
      else
        let where_ ← externalId false
        endDeclaration start
        expect (where_.isPublic || where_.address.isSome)

/-! ## Declarations -/

/-- Reads one declaration after its two marks. -/
def declaration (start : Nat) : Read Unit := do
  if ← accept "ELEMENT" then elementDeclaration start
  else if ← accept "ENTITY" then entityDeclaration start
  else if ← accept "ATTLIST" then attributeDeclaration start
  else if ← accept "NOTATION" then notationDeclaration start
  else if ← accept "--" then comment
  else pure ()

/-- Reads one declaration or instruction. -/
def markup : Read Unit := do
  let start ← place
  if ← accept "<!" then declaration start
  else if ← accept "<?" then instruction
  else halt

/-! ## Conditional parts -/

/-- What follows a part that is passed over; others may be inside it. -/
def passedOver? : (depth : Nat) → List Char → Option (List Char)
  | depth, '<' :: '!' :: '[' :: rest => passedOver? (depth + 1) rest
  | 0, ']' :: ']' :: '>' :: rest => some rest
  | depth + 1, ']' :: ']' :: '>' :: rest => passedOver? depth rest
  | depth, _ :: rest => passedOver? depth rest
  | _, [] => none

/-- Reads the bracket after the word that tells what is done with a part. -/
def partOpening (start : Nat) : Read Unit := do
  let _ ← blanks
  if !(← isAt (· = '[')) then halt
  expect ((← place) = start)
  skip

/-- Reads a conditional part and those inside it; `starts` are the places of the ones that are open. -/
def conditionalFrom : (fuel : Nat) → (starts : List Nat) → Read Unit
  | 0, _ => pure ()
  | fuel + 1, starts => do
    let start ← place
    let goesOn (starts : List Nat) : Read Unit :=
      if starts.isEmpty then pure ()
      else do
        let _ ← blanks
        conditionalFrom fuel starts
    if ← accept "<![" then
      let _ ← blanks
      if ← accept "INCLUDE" then
        partOpening start
        goesOn (start :: starts)
      else if ← accept "IGNORE" then
        partOpening start
        match passedOver? 0 (← rest) with
        | some more =>
          goOn more
          goesOn starts
        | none =>
          goOn []
          fatal
      else halt
    else
      match starts, ← rest with
      | outer :: starts, ']' :: ']' :: '>' :: more =>
        expect (start = outer)
        goOn more
        goesOn starts
      | starts, '%' :: _ =>
        parameter
        goesOn starts
      | starts, _ =>
        markup
        goesOn starts

/-- Whether a text at an address of its own is read, in which conditional parts may stand. -/
def isInOutside : Read Bool := do
  let st ← get
  return 1 < st.layers.length && st.layers.head?.any (·.address.isSome)

/-! ## The document type -/

/-- Reads the declarations up to the bracket that ends them. -/
def declarationsFrom : (fuel : Nat) → Read Unit
  | 0 => pure ()
  | fuel + 1 => do
    let _ ← blanks
    match ← rest with
    | [] => halt
    | c :: more =>
      if c = ']' && !(← isInParameter) then skip
      else
        if c = '%' then parameter
        else if c = '<' && more.take 2 = ['!', '['] && (← isInOutside) then
          conditionalFrom (100 * (← get).steps) []
        else markup
        declarationsFrom fuel

/-- Reads the declarations of the document type if they begin here. -/
def subset : Read Bool := do
  if ← accept "[" then
    declarationsFrom (100 * (← get).steps)
    let _ ← blanks
    expect (← accept ">")
    return true
  else return false

/-- Reads the document type after its keyword. Its declarations may also stand right behind its end. -/
def doctype : Read Unit := do
  let _ ← blanks
  let name ← takeName
  expect name.isSome
  let _ ← blanks
  let where_ ← externalId true
  modify fun st => { st with hasOutside := where_.isPublic || where_.address.isSome }
  let _ ← blanks
  if !(← subset) then
    expect (← isAt (· = '>'))
    skip
    let _ ← subset

end GirDoc.Xml
