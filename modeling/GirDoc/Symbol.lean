import GirDoc.TypeName
import GirDoc.Value.Access

/-!
# Symbols

What documentation is about: functions, structures, macros, classes and so on, and the typed items that
they are made of. Symbols refer to each other by number, because one parameter can belong to several
lists and is changed for all of them at once.
-/

namespace GirDoc

/-- What a symbol is. -/
inductive SymbolKind where
  | plain
  | qualified
  | parameter
  | returnItem
  | function
  | struct
  | enumeration
  | otherName
  | field
  | constant
  | exportedVariable
  | property
  | classType
  | interface
  | functionMacro
  | callback
  | signal
  | vfunction
  deriving Repr, DecidableEq, Inhabited

namespace SymbolKind

/-- All kinds with their names. -/
def names : List (SymbolKind × String) := [
  (plain, "Symbol"), (qualified, "QualifiedSymbol"), (parameter, "ParameterSymbol"),
  (returnItem, "ReturnItemSymbol"), (function, "FunctionSymbol"), (struct, "StructSymbol"),
  (enumeration, "EnumSymbol"), (otherName, "AliasSymbol"), (field, "FieldSymbol"),
  (constant, "ConstantSymbol"), (exportedVariable, "ExportedVariableSymbol"),
  (property, "PropertySymbol"), (classType, "ClassSymbol"), (interface, "InterfaceSymbol"),
  (functionMacro, "FunctionMacroSymbol"), (callback, "CallbackSymbol"),
  (signal, "SignalSymbol"), (vfunction, "VFunctionSymbol")]

/-- The name of a kind. -/
def name (k : SymbolKind) : String :=
  ((names.find? fun (k', _) => k' = k).map Prod.snd).getD ""

/-- The kind of a name. -/
def ofName? (name : String) : Option SymbolKind :=
  (names.find? fun (_, n) => n = name).map Prod.fst

/-- Whether symbols of a kind are typed items: they are written out where they stand. -/
def isQualified (k : SymbolKind) : Bool :=
  k = qualified || k = parameter || k = returnItem

end SymbolKind

/-- The number of a symbol. -/
abbrev SymbolId := Nat

/-- A place for a symbol, which may be empty. -/
abbrev SymbolSlot := Option SymbolId

/-- A documentation comment. -/
structure Comment where
  name : Option String := none
  description : Option String := none
  filename : Option String := none
  /-- The parameters that it documents, with their descriptions. -/
  params : List (String × Option String) := []
  tags : List String := []
  notes : List (String × Value) := []
  /-- Its text as a tree, once it was made. -/
  tree : Value := .null
  deriving Inhabited

/-- An attribute that introspection gives to a symbol. -/
inductive Attribute where
  | value (v : Value)
  | symbols (slots : List SymbolSlot)
  deriving Inhabited

/-- A symbol. The fields that only some kinds have are empty for the others. -/
structure Symbol where
  kind : SymbolKind
  uniqueName : Option String := none
  displayName : Option String := none
  filename : Option String := none
  language : Option String := none
  comment : Option Comment := none
  link : Option Link := none
  isMethod : Bool := false
  throws : Bool := false
  parameters : List SymbolSlot := []
  members : List SymbolSlot := []
  returnValue : List SymbolSlot := [none]
  extra : List (String × Value) := []
  extentStart : Option Int := none
  extentEnd : Option Int := none
  parentName : Option Value := none
  /-- The written type of a typed item. -/
  tokens : Option (List TypeToken) := none
  argName : Option String := none
  itemName : Option String := none
  enumValue : Option Int := none
  propertyType : Option SymbolId := none
  /-- The type names of the ancestors of a class, the root first. -/
  hierarchy : Option (List (Option String)) := none
  /-- The class whose children are shown with this one. -/
  childrenOf : Option String := none
  attributes : List (String × Attribute) := []
  /-- The attributes that come from elsewhere, by where they come from. -/
  otherAttributes : List (String × Value) := []
  contents : List (String × Value) := []
  /-- Plain values that were given for parts, by the words for the parts. They are shown in the place of
  the parts. -/
  plain : List (String × Value) := []
  deriving Inhabited

namespace Symbol

/-- An attribute of introspection that is a plain value; null if it is not there. -/
def attributeValue (s : Symbol) (key : String) : Value :=
  match s.attributes.lookup key with
  | some (.value v) => v
  | _ => .null

/-- The display name and the unique name of a symbol: either stands for the other if that is missing or
empty. -/
def pairNames (display unique : Option String) : Option String × Option String :=
  let display := if display.all (·.isEmpty) then unique else display
  (display, if unique.all (·.isEmpty) then display else unique)

/-- Forgets the plain value of a part. -/
def dropPlain (s : Symbol) (word : String) : Symbol :=
  { s with plain := s.plain.filter fun (w, _) => w ≠ word }

/-- What is shown of a part: its plain value, if one was given for it. -/
def part (s : Symbol) (word : String) (usual : Value) : Value :=
  (s.plain.lookup word).getD usual

/-- The display name as it is spelled in texts. -/
def displayed (s : Symbol) : String :=
  (s.part "display_name" (.ofText? s.displayName)).display

/-- The unique name, as a value. -/
def uniqueValue (s : Symbol) : Value := s.part "unique_name" (.ofText? s.uniqueName)

/-- Places for the items of a plain value, all of them empty. -/
def emptySlots : Value → List SymbolSlot
  | .list items => items.map fun _ => none
  | _ => []

/-- The owner of the attributes of introspection. -/
def introspection : String := "gi-extension"

/-- Sets all attributes, by where they come from. -/
def setAttributes (s : Symbol) (entries : List (String × Value)) : Symbol :=
  let own := match entries.lookup introspection with
    | some (.dict own) => own
    | _ => []
  { s.dropPlain "extension_attributes" with
    attributes := own.map fun (key, v) => (key, .value v)
    otherAttributes := entries }

/-- Whether a symbol can be asked for attributes of introspection: not if a plain value was given for all
attributes, or for those of introspection. -/
def takesAttributes (s : Symbol) : Bool :=
  (s.plain.lookup "extension_attributes").isNone &&
    match s.otherAttributes.lookup introspection with
    | some (.dict _) | none => true
    | some v => !v.truthy

/-- Sets a part to a plain value. What the part is used for follows it as far as it can. -/
def setPlain (s : Symbol) (word : String) (v : Value) : Symbol :=
  let s := { s with plain := Value.put s.plain word v }
  let text := match v with
    | .text t => some t
    | _ => none
  match word with
  | "display_name" => { s with displayName := text }
  | "filename" => { s with filename := text }
  | "argname" => { s with argName := text }
  | "name" => { s with itemName := text }
  | "is_method" => { s with isMethod := v.truthy }
  | "throws" => { s with throws := v.truthy }
  | "parameters" => { s with parameters := emptySlots v }
  | "return_value" => { s with returnValue := emptySlots v }
  | "members" => { s with members := emptySlots v }
  | "comment" => { s with comment := none }
  | "link" => { s with link := none }
  | "gi_parent_name" => { s with parentName := some v }
  | "extension_attributes" => { s with attributes := [], otherAttributes := [] }
  | "extension_contents" => { s with contents := [] }
  | _ => s

/-- Sets an attribute of introspection. -/
def setAttribute (s : Symbol) (key : String) (a : Attribute) : Symbol :=
  { s with attributes := Value.put s.attributes key a }

/-- Sets a piece of content. -/
def setContent (s : Symbol) (key : String) (v : Value) : Symbol :=
  { s with contents := Value.put s.contents key v }

/-- Removes a piece of content. -/
def dropContent (s : Symbol) (key : String) : Symbol :=
  { s with contents := s.contents.filter fun (k, _) => k ≠ key }

end Symbol

/-! ## Requests -/

/-- What a symbol is kept under: its name, but nothing, numbers and truth values serve as well. -/
inductive SymbolKey where
  | nothing
  | text (name : String)
  | number (n : Int)
  | truth (b : Bool)
  deriving Repr, DecidableEq

namespace SymbolKey

/-- The key that a value is; lists, dictionaries and broken numbers are none. -/
def ofValue? : Value → Option SymbolKey
  | .null => some nothing
  | .text name => some (text name)
  | .int n => some (number n)
  | .bool b => some (truth b)
  | _ => none

/-- A key as a value. -/
def value : SymbolKey → Value
  | nothing => .null
  | text name => .text name
  | number n => .int n
  | truth b => .bool b

end SymbolKey

/-- One detail of a requested symbol. -/
inductive Detail where
  | uniqueName (name : String)
  | displayName (name : Option String)
  | filename (file : Option String)
  | language (name : String)
  | line (n : Int)
  | extentStart (n : Int)
  | extentEnd (n : Int)
  | parameters (slots : List SymbolSlot)
  | returnValue (slots : List SymbolSlot)
  | members (slots : List SymbolSlot)
  | hierarchy (names : List (Option String))
  | children (of : String)
  | propertyType (id : SymbolId)
  | fieldType (id : SymbolId)
  | aliasedType (id : SymbolId)
  | variableType (id : SymbolId)
  | memberName (name : String)
  | isFunctionPointer (b : Bool)
  | anonymous (b : Bool)
  | rawText (text : Option String)
  | definitionText (text : String)
  | extra (entries : List (String × Value))
  | other (word : String) (value : Value)

namespace Detail

/-- What a detail does to the symbol. -/
def apply (s : Symbol) : Detail → Symbol
  | uniqueName name => { s with uniqueName := some name }
  | displayName name => { s.dropPlain "display_name" with displayName := name }
  | filename file => { s.dropPlain "filename" with filename := file }
  | language name => { s.dropPlain "language" with language := some name }
  | extentStart n => { s.dropPlain "extent_start" with extentStart := some n }
  | extentEnd n => { s.dropPlain "extent_end" with extentEnd := some n }
  | parameters slots => { s.dropPlain "parameters" with parameters := slots }
  | returnValue slots => { s.dropPlain "return_value" with returnValue := slots }
  | members slots => { s.dropPlain "members" with members := slots }
  | hierarchy names => { s.dropPlain "hierarchy" with hierarchy := some names }
  | children of => { s.dropPlain "children" with childrenOf := some of }
  | propertyType id => { s.dropPlain "prop_type" with propertyType := some id }
  | extra entries => { s.dropPlain "extra" with extra := entries }
  | other "extension_attributes" (.dict entries) => s.setAttributes entries
  | other "extension_contents" (.dict entries) =>
    { s.dropPlain "extension_contents" with contents := entries }
  | other word value => s.setPlain word value
  | _ => s

end Detail

/-- The detail that gives a symbol the display name of another. -/
def Symbol.displayDetail (s : Symbol) : Detail :=
  match s.plain.lookup "display_name" with
  | some v => .other "display_name" v
  | none => .displayName s.displayName

/-- A request for a symbol of a kind. -/
structure Request where
  kind : SymbolKind
  details : List Detail

namespace Request

/-- The display name that a request gives. -/
def display? (r : Request) : Option Value :=
  r.details.findSome? fun
    | .displayName name => some (.ofText? name)
    | .other "display_name" v => some v
    | _ => none

/-- The unique name that a request gives. -/
def unique? (r : Request) : Option Value :=
  r.details.findSome? fun
    | .uniqueName name => some (.text name)
    | .other "unique_name" v => some v
    | _ => none

/-- What the symbol is kept under: its unique name, else its display name. -/
def key? (r : Request) : Option SymbolKey :=
  SymbolKey.ofValue? (((r.unique?.filter Value.truthy) <|> r.display?).getD .null)

/-- A symbol as a request leaves it; it has its key as its unique name. -/
def applyTo (r : Request) (key : SymbolKey) (s : Symbol) : Symbol :=
  let s := r.details.foldl Detail.apply s
  match key with
  | .text name => { s.dropPlain "unique_name" with uniqueName := some name }
  | .nothing => { s.dropPlain "unique_name" with uniqueName := none }
  | key => { s.setPlain "unique_name" key.value with uniqueName := none }

end Request

end GirDoc
