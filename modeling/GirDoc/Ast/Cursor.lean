import GirDoc.Ast.Query

/-!
# Nodes of a syntax tree

A node as it is handed out. Most nodes know the unit that they belong to. A node that is found through a
token does not, and so cannot lead to other nodes or to types.
-/

namespace GirDoc.Ast

/-- A node that was handed out. -/
structure Cursor where
  ref : CursorRef
  /-- Whether the node knows its unit. -/
  tied : Bool := true
  deriving Repr, DecidableEq, Inhabited

/-- A token with the file in which it stands. -/
structure Token where
  file : Option String
  data : TokenData
  deriving Repr, Inhabited

namespace Token

/-- The kind of a token. -/
def kind (t : Token) : Except Fault Kind := Family.token.kind t.data.kind

/-- Where a token starts. -/
def location (t : Token) : Location :=
  { file := t.file, line := t.data.line, column := t.data.column }

/-- The stretch of a token, which has as many columns as characters. -/
def extent (t : Token) : Range :=
  { start := t.location
    stop := { t.location with column := t.data.column + t.data.spelling.length } }

/-- The node to which a token belongs. -/
def cursor (t : Token) : Cursor := { ref := t.data.cursor, tied := false }

end Token

/-- A number read as an unsigned one of 32 bits. -/
def asWord (n : Int) : Int := n % 4294967296

namespace Cursor

variable (u : SourceUnit) (c : Cursor)

/-- What the tree says of a node. -/
def data : CursorData := u.cursor c.ref

/-- The kind of a node. -/
def kind : Except Fault Kind := Family.cursor.kind (c.data u).kind

/-- Where a node stands. -/
def location : Location :=
  let d := c.data u
  { file := d.file, line := d.line, column := d.column }

/-- The lines of a node. -/
def extent : Range :=
  let d := c.data u
  { start := { file := d.file, line := d.firstLine }, stop := { file := d.file, line := d.lastLine } }

/-- How a node is stored. -/
def storageClass : Except Fault Kind := Family.storage.kind (c.data u).storage

/-- Who has access to a node. -/
def accessSpecifier : Except Fault Kind := Family.access.kind (asWord (c.data u).access)

/-- Whether a property holds of a node. -/
def has (property : String) : Bool := (c.data u).flags.contains property

/-! ## Other nodes and types -/

/-- A node next to this one, such as its parent. -/
def neighbour (r : CursorRef) : Except Fault (Option Cursor) :=
  if r = .null then .ok none else if c.tied then .ok (some { ref := r }) else .error .noSuchPart

/-- A node that this one stands for, such as its definition. -/
def counterpart (r : CursorRef) : Except Fault (Option Cursor) :=
  if r = .null then .ok none else if c.tied then .ok (some { ref := r }) else .error .broken

/-- A type that belongs to a node. -/
def ofType (t : TypeRef) : Except Fault TypeRef := if c.tied then .ok t else .error .broken

/-- The type of a node. -/
def type : Except Fault TypeRef := c.ofType (c.data u).type

/-- The type that a declaration gives a name to. -/
def underlyingType : Except Fault TypeRef := do c.ofType (← u.underlyingType c.ref)

/-- The integer type of an enumeration. -/
def integerType : Except Fault TypeRef := do c.ofType (← u.integerType c.ref)

/-- The type of what a function gives. -/
def resultType : Except Fault TypeRef := do return (u.type (← c.type u)).result

/-- The value of an enumeration constant. -/
def enumValue : Except Fault Int := do
  if (← u.cursorKind c.ref) ≠ enumConstantDecl then throw .broken
  let _ ← c.type u
  u.enumValue c.ref

/-- The arguments of a node. -/
def arguments : Except Fault (List (Option Cursor)) :=
  (((c.data u).arguments).getD []).mapM c.counterpart

/-- The argument of a template at an index. -/
def templateArgument (i : Int) : TemplateArgument :=
  if i < 0 then {} else (((c.data u).templateArguments)[i.toNat]?).getD {}

/-- The children of a node. -/
def children : List Cursor := if c.tied then (u.children c.ref).map fun r => { ref := r } else []

/-- The tokens of a node. -/
def tokens : Except Fault (List Token) :=
  if c.tied then .ok ((c.data u).tokens.map fun t => { file := (c.data u).file, data := t })
  else .error .noSuchPart

/-- A node and what is below it, parents before children. -/
def below (u : SourceUnit) : Nat → Cursor → Except Fault (List Cursor)
  | 0, _ => .error .tooDeep
  | fuel + 1, c => do
    let lists ← (c.children u).mapM (below u fuel)
    return c :: lists.flatten

/-- A node and what is below it, parents before children. No way down is longer than the number of
nodes, unless it goes round in a circle. -/
def preorder : Except Fault (List Cursor) := below u (u.cursors.size + 1) c

/-- Whether a node has no name of its own; a field asks the declaration of its type. -/
def anonymous (u : SourceUnit) : Nat → Cursor → Except Fault Bool
  | 0, _ => .error .tooDeep
  | fuel + 1, c => do
    if (← c.kind u).id = fieldDecl then
      anonymous u fuel { ref := ← u.declaration (← c.type u) }
    else return c.has u "isAnonymous"

/-- Whether a node has no name of its own. -/
def isAnonymous : Except Fault Bool := anonymous u (u.cursors.size + 1) c

end Cursor

namespace SourceUnit

/-- The node at a line and column. -/
def cursorAt (u : SourceUnit) (l : Location) : Cursor :=
  { ref := (u.located.lookup (l.line, l.column)).getD .null }

/-- Whether kinds of nodes belong to a class of kinds. -/
def inKindClass (u : SourceUnit) (name : String) (k : Kind) : Bool :=
  ((u.kindClasses.lookup name).getD []).contains (k.id : Int)

/-! ## Types -/

/-- The type of the elements of a type. -/
def elementType (u : SourceUnit) (t : TypeRef) : Except Fault TypeRef := do
  let element := (u.type t).element
  if (← u.typeKind element) = invalidKind then throw .noElementType else pure element

/-- The number of the elements of a type. -/
def elementCount (u : SourceUnit) (t : TypeRef) : Except Fault Int :=
  let n := (u.type t).count
  if n < 0 then .error .noElements else .ok n

/-- Whether a function takes further arguments. -/
def isVariadic (u : SourceUnit) (t : TypeRef) : Except Fault Bool := do
  if (← u.typeKind t) = functionProtoKind then pure (u.type t).variadic else throw .broken

/-- The kind of reference that a method is called on. -/
def refQualifier (u : SourceUnit) (t : TypeRef) : Except Fault Kind :=
  Family.refQualifier.kind (asWord (u.type t).refQualifier)

/-- The offset of a field, or the code for a name that is not one of a field. -/
def fieldOffset (u : SourceUnit) (t : TypeRef) (name : String) : Int :=
  ((u.type t).offsets.lookup name).getD (-5)

/-- The fields of a type, up to the first null one. -/
def fields (u : SourceUnit) (t : TypeRef) : List CursorRef :=
  (u.type t).fields.takeWhile (· ≠ .null)

end SourceUnit

end GirDoc.Ast
