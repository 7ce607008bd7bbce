import GirDoc.Ast.Query
import GirDoc.Link

/-!
# Names of C types

A type is written as a list of tokens: texts and links to the declarations of the types that it is made
of. A pointer is written as what it points to, a star, and its own qualifiers.
-/

namespace GirDoc

/-- A token of a written type. -/
inductive TypeToken where
  | text (s : String)
  | link (l : Link)
  deriving Repr, DecidableEq, Inhabited

namespace TypeName

open Ast

/-- The qualifiers of a type, in the order in which they are written. -/
def qualifiers (t : TypeData) : List TypeToken :=
  (if t.isVolatile then [.text "volatile "] else [])
    ++ (if t.isRestrict then [.text "restrict "] else [])
    ++ (if t.isConst then [.text "const "] else [])

/-- A link to a declaration by its display name. -/
def declarationLink (d : CursorData) : TypeToken :=
  .link (Link.named (some d.display))

/-- The keyword that a tagged declaration is written with. -/
def tagKeyword (kind : Nat) : List TypeToken :=
  if kind = structDecl then [.text "struct "]
  else if kind = enumDecl then [.text "enum "]
  else []

/-- The tokens of a type that is no pointer. -/
def baseTokens (u : SourceUnit) (t : TypeRef) : Except Fault (List TypeToken) := do
  let kind ← u.typeKind t
  if kind = typedefKind then
    let d := u.cursor (← u.declaration t)
    pure (qualifiers (u.type t) ++ [declarationLink d])
  else if kind = unexposedKind then
    let ref ← u.declaration t
    let d := u.cursor ref
    let name := if d.spelling.isEmpty then .text "__UNKNOWN__" else declarationLink d
    pure (tagKeyword (← u.cursorKind ref) ++ [name])
  else pure [.text ((u.type t).spelling ++ " ")]

/-- The tokens of a type with at most `depth` levels of pointers. -/
def tokensWithin (u : SourceUnit) : (depth : Nat) → TypeRef → Except Fault (List TypeToken)
  | 0, _ => .error .tooDeep
  | depth + 1, t => do
    if (← u.typeKind t) = pointerKind then
      let pointee ← tokensWithin u depth (u.type t).pointee
      pure (pointee ++ .text "*" :: qualifiers (u.type t))
    else baseTokens u t

/-- The tokens of a type. A chain of pointers without a cycle is no longer than there are types. -/
def tokens (u : SourceUnit) (t : TypeRef) : Except Fault (List TypeToken) :=
  tokensWithin u (u.types.size + 1) t

end TypeName

end GirDoc
