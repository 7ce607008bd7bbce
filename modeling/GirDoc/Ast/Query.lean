import GirDoc.Ast.Model
import GirDoc.Fault

/-!
# Questions about syntax trees

What the documentation of C needs to know of nodes and types: their kinds, the declaration of a type,
the value of an enumeration constant, and whether a type is a pointer to a function.
-/

namespace GirDoc.Ast

/-! ## Numbers of kinds -/

def structDecl : Nat := 2
def enumDecl : Nat := 5
def fieldDecl : Nat := 6
def enumConstantDecl : Nat := 7
def functionDecl : Nat := 8
def varDecl : Nat := 9
def typedefDecl : Nat := 20
def typeRefKind : Nat := 43
def compoundStmt : Nat := 202

def invalidKind : Nat := 0
def unexposedKind : Nat := 1
def pointerKind : Nat := 101
def enumKind : Nat := 106
def typedefKind : Nat := 107
def functionProtoKind : Nat := 111

/-- The types of unsigned integers. -/
def unsignedKinds : List Nat := [4, 5, 6, 7, 8, 9, 10, 11, 12]

/-- Whether nodes of a kind are declarations. -/
def isDeclarationKind (id : Nat) : Bool :=
  (1 ≤ id && id ≤ 39) || (600 ≤ id && id ≤ 603)

namespace SourceUnit

/-- The number of the kind of a node. -/
def cursorKind (u : SourceUnit) (c : CursorRef) : Except Fault Nat :=
  (Family.cursor.kind (u.cursor c).kind).map Kind.id

/-- The number of the kind of a type. -/
def typeKind (u : SourceUnit) (t : TypeRef) : Except Fault Nat :=
  (Family.type.kind (u.type t).kind).map Kind.id

/-- The node that declares a type, if there is one. -/
def declaration? (u : SourceUnit) (t : TypeRef) : Option CursorRef :=
  (u.type t).declaration.notNull?

/-- The node that declares a type. -/
def declaration (u : SourceUnit) (t : TypeRef) : Except Fault CursorRef :=
  match u.declaration? t with
  | some d => .ok d
  | none => .error .noSuchPart

/-- The children of a node, up to the first null one. -/
def children (u : SourceUnit) (c : CursorRef) : List CursorRef :=
  (u.cursor c).children.takeWhile (· ≠ .null)

/-- The type that a declaration gives a name to. -/
def underlyingType (u : SourceUnit) (c : CursorRef) : Except Fault TypeRef := do
  if isDeclarationKind (← u.cursorKind c) then pure (u.cursor c).underlying
  else throw .broken

/-- The integer type of an enumeration. -/
def integerType (u : SourceUnit) (c : CursorRef) : Except Fault TypeRef := do
  if (← u.cursorKind c) = enumDecl then pure (u.cursor c).enumType else throw .broken

/-- A signed number read as an unsigned one of 64 bits. -/
def asUnsigned (n : Int) : Int := n % 18446744073709551616

/-- The value of an enumeration constant, signed or not as its integer type is. -/
def enumValue (u : SourceUnit) (c : CursorRef) : Except Fault Int := do
  if (← u.cursorKind c) ≠ enumConstantDecl then throw .broken
  let type := (u.cursor c).type
  let type ←
    if (← u.typeKind type) = enumKind then u.integerType (← u.declaration type) else pure type
  let value := (u.cursor c).value
  if unsignedKinds.contains (← u.typeKind type) then pure (asUnsigned value) else pure value

/-- Whether a type is a pointer to a function. -/
def isFunctionPointer (u : SourceUnit) (t : TypeRef) : Except Fault Bool := do
  if (← u.typeKind t) = pointerKind then
    pure ((← u.typeKind (u.type (u.type t).pointee).result) ≠ invalidKind)
  else pure false

end SourceUnit

end GirDoc.Ast
