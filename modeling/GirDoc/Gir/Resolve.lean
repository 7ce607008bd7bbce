import GirDoc.Gir.Filter
import GirDoc.Gir.Flag
import GirDoc.Gir.Language
import GirDoc.Gir.TypeTokens

/-!
# Resolving symbols

When the page of a symbol is made, introspection adds to it what it knows: functions learn the
directions of their parameters, and structures get the classes, signals, properties and virtual methods
that belong to them.
-/

namespace GirDoc.Gir

open Session Xml

/-! ## Parameters -/

/-- The type of an element. -/
def typeNow (n : Node) : Doc (Option (List TypeToken) × Option String) := do
  Attempt.ofExcept (typeOf (← get).index n)

/-- The name of a type as an attribute. -/
def nameAttribute (name : Option String) : String × Attribute :=
  ("gi_name", .value (Record.optional name))

/-- The symbol of a parameter, with its direction. -/
def createParameter (n : Node) : Doc (SymbolId × String) := do
  let name ← Attempt.need .missingKey (n.attribute? "name")
  let (tokens, type) ← typeNow n
  let direction := (n.attribute? "direction").getD "in"
  let id ← addSymbol { kind := .parameter, tokens, argName := some name,
                       attributes := [nameAttribute type, ("direction", .value (.text direction))] }
  return (id, direction)

/-- The items of a result: what is returned, unless it is nothing, and the parameters that are set. -/
def createReturn (n : Node) (outs : List SymbolId) : Doc (List SymbolSlot) := do
  let (tokens, type) ← typeNow n
  let first ←
    if type = some "none" then pure none
    else do
      pure (some (← addSymbol { kind := .returnItem, tokens, attributes := [nameAttribute type] }))
  let others ← outs.mapM fun out => do
    let s ← symbol out
    return some (← addSymbol { kind := .returnItem, tokens := s.tokens, itemName := s.argName })
  return first :: others

/-- The parameters and the result of something that can be called. -/
def createSignature (n : Node) : Doc (List SymbolId × List SymbolSlot) := do
  let list := n.child? (core "parameters")
  let instances ← match list.bind (·.child? (core "instance-parameter")) with
    | some p => do pure [(← createParameter p).1]
    | none => pure []
  let others ← ((list.map (·.childrenOf (core "parameter"))).getD []).mapM createParameter
  let outs := (others.filter fun (_, direction) => direction ≠ "in").map Prod.fst
  let result ← Attempt.need .noSuchPart (n.child? (core "return-value"))
  return (instances ++ others.map Prod.fst, ← createReturn result outs)

/-- The parameters that a caller passes: those that go in, without the instance of a method. -/
def passedParameters (isMethod : Bool) (parameters : List SymbolSlot) : Doc (List SymbolSlot) := do
  let own := if isMethod then parameters.drop 1 else parameters
  own.filterM fun slot => do
    let direction ← attributeOf (← symbolIn slot) "direction"
    return direction == .text "in" || direction == .text "inout"

/-- Notes the parameters that a caller of a symbol passes. -/
def notePassed (id : SymbolId) (parameters : List SymbolSlot) : Doc Unit := do
  let passed ← passedParameters (← symbol id).isMethod parameters
  setAttribute id "parameters" (.symbols passed)

/-! ## Members of classes -/

/-- The symbol of a signal of an object. -/
def createSignal (owner : Option String) (n : Node) : Doc SymbolId := do
  let name ← Attempt.need .missingKey (n.attribute? "name")
  let (parameters, result) ← createSignature n
  let slot ← requestFiltered .signal [.parameters (parameters.map some), .returnValue result,
    .displayName (some name), .uniqueName (memberName owner "::" name)]
  let id ← Attempt.need .noSuchPart slot
  setContent id "Flags" (formatFlags (signalFlags n))
  notePassed id (parameters.map some)
  return id

/-- The symbol of a property of an object. -/
def createProperty (owner : Option String) (n : Node) : Doc SymbolId := do
  let name ← Attempt.need .missingKey (n.attribute? "name")
  let (tokens, type) ← typeNow n
  let item ← addSymbol { kind := .qualified, tokens, attributes := [nameAttribute type] }
  let slot ← requestFiltered .property [.propertyType item, .displayName (some name),
    .uniqueName (memberName owner ":" name)]
  let id ← Attempt.need .noSuchPart slot
  setContent id "Flags" (formatFlags (propertyFlags n))
  return id

/-- The symbol of a virtual method of an object. -/
def createVfunction (owner : Option String) (n : Node) : Doc SymbolId := do
  let name ← Attempt.need .missingKey (n.attribute? "name")
  let (parameters, result) ← createSignature n
  let slot ← requestFiltered .vfunction [.parameters (parameters.map some), .returnValue result,
    .displayName (some name), .uniqueName (memberName owner ":::" name)]
  let id ← Attempt.need .noSuchPart slot
  notePassed id (parameters.map some)
  return id

/-- The symbol of a class, with its place in the hierarchy. -/
def createClass (symbol : Symbol) (key : String) : Doc SymbolSlot := do
  let hierarchy ← Attempt.need .missingKey ((← get).index.hierarchies.lookup key)
  requestFiltered .classType [.hierarchy hierarchy, .children key, symbol.displayDetail,
    .uniqueName (memberName symbol.uniqueName "::" (spelled symbol.uniqueName))]

/-- The symbol of an interface. -/
def createInterface (symbol : Symbol) : Doc SymbolSlot :=
  requestFiltered .interface [symbol.displayDetail,
    .uniqueName (memberName symbol.uniqueName "::" (spelled symbol.uniqueName))]

/-! ## Updating symbols -/

/-- Gives a parameter of C what introspection says of the parameter in its place. -/
def pairParameter (slot : SymbolSlot) (described : Option SymbolId) : Doc Unit := do
  let d ← symbol (← Attempt.need .outOfRange described)
  let id ← Attempt.need .noSuchPart slot
  setAttribute id "gi_name" (.value (d.attributeValue "gi_name"))
  setAttribute id "direction" (.value (d.attributeValue "direction"))

/-- Pairs the parameters of C with those of introspection by position. -/
def pairParameters : List SymbolSlot → List SymbolId → Doc Unit
  | [], _ => return
  | slot :: rest, described => do
    pairParameter slot described.head?
    pairParameters rest (described.drop 1)

/-- Updates a function from its element. The last parameter of C is for the error of one that throws. -/
def updateFunction (id : SymbolId) (name : String) (n : Node) : Doc Unit := do
  debug ("Updating function " ++ (← symbol id).displayed)
  changeSymbol id fun s => { s.dropPlain "is_method" with isMethod := n.tag.endsWith "method" }
  let _ ← addNames name n
  let (described, result) ← createSignature n
  changeSymbol id fun s => { s.dropPlain "return_value" with returnValue := result }
  let throws := (n.attribute? "throws").isSome
  if throws then changeSymbol id fun s => { s.dropPlain "throws" with throws := true }
  let all := (← symbol id).parameters
  let parameters := if throws then all.dropLast else all
  pairParameters parameters described
  notePassed id parameters

/-- The parts of the namespaced name of a structure, as classes are looked up by them. -/
def structParts (n : Node) (parts : List String) : List String :=
  if (n.attribute? (c "identifier")).isSome then
    parts.dropLast ++ ["prototype." ++ parts.getLast?.getD ""]
  else parts

/-- The comment on the class structure of an element. -/
def structComment? (n : Node) (parts : List String) : Doc (Option Comment) := do
  match n.attribute? (glib "type-struct") with
  | some name =>
    if name.isEmpty then return none
    else comment? (parts.head?.getD "" ++ name)
  | none => return none

/-- Takes the comment on a virtual method from that on its class structure. -/
def inheritComment (parent : Option Comment) (id : SymbolId) (name : String) : Doc Unit := do
  match parent with
  | none => return
  | some parent =>
    match parent.params.lookup name with
    | none => return
    | some description =>
      addComment { name := (← symbol id).uniqueName, description, filename := parent.filename }

/-- Updates a structure from its element, and gives the symbols that belong to it. -/
def updateStruct (id : SymbolId) (name : String) (n : Node) : Doc (List SymbolSlot) := do
  let s ← symbol id
  debug ("Updating record " ++ s.displayed)
  let parts := structParts n (← addNames name n)
  let own ←
    if n.tag = core "class" then do pure [← createClass s (".".intercalate parts)]
    else if n.tag = core "interface" then do pure [← createInterface s]
    else pure []
  let owner := n.attribute? (glib "type-name")
  let signals ← (n.childrenOf (glib "signal")).mapM fun m => do
    let id ← createSignal owner m
    debug ("Added signal symbol " ++ spelled (m.attribute? "name"))
    return some id
  let properties ← (n.childrenOf (core "property")).mapM fun m => do
    let id ← createProperty owner m
    debug ("Added property symbol " ++ spelled (m.attribute? "name"))
    return some id
  let parent ← structComment? n parts
  let methods ← (n.childrenOf (core "virtual-method")).mapM fun m => do
    let id ← createVfunction owner m
    debug ("Added vmethod symbol " ++ spelled (m.attribute? "name"))
    inheritComment parent id ((m.attribute? "name").getD "")
    return some id
  return own ++ signals ++ properties ++ methods

/-- Updates a symbol from its element, if it has one, and gives the symbols that belong to it. -/
def updateSymbol (slot : SymbolSlot) : Doc (List SymbolSlot) := do
  let id ← Attempt.need .noSuchPart slot
  let s ← symbol id
  match s.uniqueName with
  | none => return []
  | some name =>
    match (← get).index.node? name with
    | none => return []
    | some n =>
      if s.kind = .function || s.kind = .callback then
        updateFunction id name n
        return []
      else if s.kind = .struct || s.kind = .otherName then updateStruct id name n
      else return []

/-- Resolves a symbol for a page; only the pages of introspection count. -/
def resolve (page : String) (slot : SymbolSlot) : Doc (List SymbolSlot) :=
  if page = pageOwner then updateSymbol slot else return []

/-- The key under which a generated index lists a symbol: the file that implements it, else its own. -/
def indexKey (slot : SymbolSlot) : Doc Value := do
  let s ← symbolIn slot
  if (s.plain.lookup "extra").isSome then throw .noSuchPart
  return (s.extra.lookup "implementation_filename").getD (s.part "filename" (Record.optional s.filename))

end GirDoc.Gir
