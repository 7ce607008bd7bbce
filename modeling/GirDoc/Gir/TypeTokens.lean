import GirDoc.Gir.Reading
import GirDoc.Symbol
import GirDoc.Text.Blank
import GirDoc.Text.Split

/-!
# Types in introspection files

The type of a parameter or property is written with tokens, from what C calls it if the file says so,
else from its name in introspection.
-/

namespace GirDoc.Gir

open Xml

/-- The words that qualify a type. -/
def qualifierWords : List String := ["const", "restrict", "volatile"]

/-- The token of a word of a type. -/
def wordToken (word : String) : TypeToken :=
  if word ∈ qualifierWords then .text (word ++ " ") else .link (Link.named (some word))

/-- The tokens of a type as C writes it: its words, then as many stars as it has. -/
def declaredTokens (text : String) : List TypeToken :=
  (Text.words (Text.trimOf (· = '*') text)).map wordToken
    ++ List.replicate (Text.countChar '*' text) (.text "*")

/-- The class that a name stands for in a namespace. -/
def classNamed? (x : Index) (space name : String) : Option Node :=
  (x.class? (space ++ "." ++ name)).or (x.class? name)

/-- The tokens of a type by its name in introspection; the type of nothing has none. -/
def namedTokens (x : Index) (space name : String) : Except Fault (Option (List TypeToken)) :=
  if name = "none" then .ok none
  else match classNamed? x space name with
    | none => .ok (some [.link (Link.named (some name)), .text "*"])
    | some n => match n.attribute? (c "type") with
      | none => .error .missingKey
      | some own => .ok (some [.link (Link.named (some own)), .text "*"])

mutual

/-- The innermost of arrays of arrays. -/
def innermost : Element → Element
  | .mk tag attributes children holding =>
    (innermostAmong children).getD (.mk tag attributes children holding)

/-- The innermost array in the first array of a list. -/
def innermostAmong : List Element → Option Element
  | [] => none
  | e :: rest => if e.tag = core "array" then some (innermost e) else innermostAmong rest

end

/-- The name of the namespace around an element. -/
def namespaceOf (n : Node) : Except Fault String :=
  match n.ancestors.find? fun e => e.tag = core "namespace" with
  | none => .error .noSuchPart
  | some space => match space.attribute? "name" with
    | some name => .ok name
    | none => .error .missingKey

/-- What an element says of its type: what C calls it, and its name in introspection. -/
def statedType (n : Node) : Except Fault (Option String × Option String) :=
  let inner := innermost n.element
  if (inner.child? (core "varargs")).isSome then .ok (some "...", some "valist")
  else match inner.child? (core "type") with
    | none => .error .noSuchPart
    | some type => .ok (type.attribute? (c "type"), type.attribute? "name")

/-- The tokens of the type of an element, and its name in introspection, with its namespace if it is a
class of this one. -/
def typeOf (x : Index) (n : Node) :
    Except Fault (Option (List TypeToken) × Option String) := do
  let (declared, name) ← statedType n
  let space ← namespaceOf n
  let tokens ← match declared, name with
    | some text, _ => pure (some (declaredTokens text))
    | none, some name => namedTokens x space name
    | none, none => pure (some [])
  let full := space ++ "." ++ spelled name
  pure (tokens, if (x.class? full).isSome then some full else name)

end GirDoc.Gir
