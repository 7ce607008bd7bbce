import GirDoc.Ast.Location

/-!
# Syntax trees

The syntax tree of a source unit as the parser library gives it: nodes and types by number, with
references between them. References may form cycles, as recursive types do.
-/

namespace GirDoc.Ast

/-- A reference to a node: a numbered one, the node that stands for a missing declaration, or the null
node. -/
inductive CursorRef where
  | null
  | noDecl
  | node (index : Nat)
  deriving Repr, DecidableEq, Inhabited

/-- A reference to a type: a numbered one, or the invalid type. -/
inductive TypeRef where
  | invalid
  | type (index : Nat)
  deriving Repr, DecidableEq, Inhabited

/-- A token of the source. -/
structure TokenData where
  kind : Int
  spelling : String
  line : Nat
  column : Nat
  cursor : CursorRef := .null
  deriving Repr, Inhabited

/-- An argument of a template. -/
structure TemplateArgument where
  kind : Int := 0
  type : TypeRef := .invalid
  value : Int := 0
  deriving Repr, Inhabited

/-- A node of the tree. `arguments` is `none` for what takes none. -/
structure CursorData where
  kind : Int
  spelling : String := ""
  display : String := spelling
  file : Option String := none
  line : Nat := 0
  column : Nat := 0
  firstLine : Nat := line
  lastLine : Nat := line
  children : List CursorRef := []
  type : TypeRef := .invalid
  underlying : TypeRef := .invalid
  enumType : TypeRef := .invalid
  definition : CursorRef := .null
  parent : CursorRef := .null
  lexicalParent : CursorRef := .null
  canonical : CursorRef := .null
  referenced : CursorRef := .null
  arguments : Option (List CursorRef) := none
  value : Int := 0
  tokens : List TokenData := []
  included : Option String := none
  usr : String := ""
  mangled : String := ""
  objcEncoding : String := ""
  briefComment : Option String := none
  rawComment : Option String := none
  storage : Int := 0
  access : Int := 0
  hash : Int := 0
  bitWidth : Int := -1
  fieldOffset : Int := -1
  templateArguments : List TemplateArgument := []
  flags : List String := []
  deriving Repr, Inhabited

/-- A type. -/
structure TypeData where
  kind : Int
  spelling : String := ""
  isConst : Bool := false
  isRestrict : Bool := false
  isVolatile : Bool := false
  pointee : TypeRef := .invalid
  result : TypeRef := .invalid
  declaration : CursorRef := .noDecl
  canonical : TypeRef := .invalid
  element : TypeRef := .invalid
  arrayElement : TypeRef := .invalid
  classType : TypeRef := .invalid
  named : TypeRef := .invalid
  count : Int := -1
  arraySize : Int := -1
  align : Int := -1
  size : Int := -1
  refQualifier : Int := 0
  variadic : Bool := false
  pod : Bool := false
  fields : List CursorRef := []
  offsets : List (String × Int) := []
  deriving Repr, Inhabited

/-- A diagnostic, with the notes that belong to it. -/
structure Diagnostic where
  format : String := ""
  severity : Int := 0
  spelling : String := ""
  location : Location := {}
  ranges : List Range := []
  fixits : List (Range × String) := []
  children : List Diagnostic := []
  category : Nat := 0
  categoryText : String := ""
  option : String := ""
  disable : String := ""
  deriving Inhabited

/-- A completion: chunks of text with a kind, some of which hold a completion of their own. -/
inductive Completion where
  | mk (kind : Int) (chunks : List (Int × Option String × Option Completion)) (priority : Int)
      (availability : Int) (brief : Option String)
  deriving Inhabited

/-- A command of a compilation database. -/
structure CompileCommand where
  directory : String
  file : String
  arguments : List String
  deriving Repr, Inhabited

/-- A compilation database: the code of the error of loading it, or its commands. -/
inductive CompileDatabase where
  | failed (code : Int)
  | commands (list : List CompileCommand)
  deriving Repr, Inhabited

/-- A source unit. -/
structure SourceUnit where
  main : String
  cursors : Array CursorData := #[]
  types : Array TypeData := #[]
  /-- The nodes that the tokens of a file belong to. -/
  annotated : List (String × List CursorRef) := []
  /-- The files included, with their depth. -/
  includes : List (String × Nat) := []
  /-- The files with a guard against repeated inclusion. -/
  guarded : List String := []
  diagnostics : List Diagnostic := []
  root : CursorRef := .null
  /-- The nodes at given lines and columns. -/
  located : List ((Nat × Nat) × CursorRef) := []
  /-- The kinds of nodes that belong to a class of kinds. -/
  kindClasses : List (String × List Int) := []
  saveCode : Int := 0
  completions : Option (List Completion) := none
  databases : List (String × CompileDatabase) := []
  deriving Inhabited

namespace SourceUnit

/-- The node that stands for a missing declaration. -/
def noDeclData : CursorData := { kind := 71 }

/-- The null node. -/
def nullData : CursorData := { kind := 70 }

/-- What a reference to a node refers to. -/
def cursor (u : SourceUnit) : CursorRef → CursorData
  | .node i => (u.cursors[i]?).getD nullData
  | .noDecl => noDeclData
  | .null => nullData

/-- What a reference to a type refers to. -/
def type (u : SourceUnit) : TypeRef → TypeData
  | .type i => (u.types[i]?).getD { kind := 0 }
  | .invalid => { kind := 0 }

/-- Whether the unit knows a file: its main file and what it includes. -/
def knows (u : SourceUnit) (file : String) : Bool :=
  u.main == file || u.includes.any fun (f, _) => f == file

/-- The files that were included, at any depth below the main file. -/
def includedFiles (u : SourceUnit) : List String :=
  (u.includes.filter fun (_, depth) => 0 < depth).map Prod.fst

end SourceUnit

/-- A reference, unless it is the null node. -/
def CursorRef.notNull? : CursorRef → Option CursorRef
  | null => none
  | r => some r

end GirDoc.Ast
