import GirDoc.Xml.Element
import GirDoc.Xml.Search.Step

/-!
# Searching elements

A search begins at an element and goes on step by step; each step leads from each place reached to others, in
document order. One place may be reached more than once.
-/

namespace GirDoc.Xml

/-- A place in a document: which child it is of the element around it, and so on up to the root. -/
structure Place where
  indices : List Nat := []
  node : Node
  deriving Inhabited

namespace Place

/-- The place of the element around this one. -/
def parent? (p : Place) : Option Place :=
  match p.indices, p.node.parent? with
  | _ :: indices, some node => some ⟨indices, node⟩
  | _, _ => none

/-- The places of the children. -/
def children (p : Place) : List Place :=
  p.node.children.zipIdx.map fun (n, i) => ⟨i :: p.indices, n⟩

/-- Whether two places are one. -/
def isSame (p q : Place) : Bool := p.indices == q.indices

end Place

mutual

/-- The places of an element and of all elements below, in document order. -/
def placesFrom (indices : List Nat) (ancestors : List Element) : Element → List Place
  | .mk tag attributes children holding =>
    let e := Element.mk tag attributes children holding
    ⟨indices, ⟨e, ancestors⟩⟩ :: placesAmong indices 0 (e :: ancestors) children

/-- The places of the elements of a list and of all elements below; `start` is the index of the first one. -/
def placesAmong (indices : List Nat) (start : Nat) (ancestors : List Element) :
    List Element → List Place
  | [] => []
  | e :: rest =>
    placesFrom (start :: indices) ancestors e ++ placesAmong indices (start + 1) ancestors rest

end

/-- The places below one, in document order. -/
def Place.below (p : Place) : List Place :=
  placesAmong p.indices 0 (p.node.element :: p.node.ancestors) p.node.element.children

namespace Search

/-- The places among some whose elements are of a name. -/
def named (name : String) (places : List Place) : Except Failure (List Place) := do
  let test ← nameTest name
  return places.filter fun p => test.holds p.node.tag

/-- The place at an index, which counts from the end if it is negative. -/
def placeAt? (places : List Place) (index : Int) : Option Place :=
  if index < 0 then
    let back := index.natAbs
    if places.length < back then none else places[places.length - back]?
  else places[index.toNat]?

/-- Whether the element at a place meets a condition. -/
def Condition.holds (c : Condition) (p : Place) : Except Failure Bool := do
  match c with
  | .has key => return (p.node.attribute? (← attributeKey key)).isSome
  | .hasValue key value => return p.node.attribute? (← attributeKey key) = some value
  | .hasChild name => return !(← named name p.children).isEmpty
  | .hasChildText name value => return (← named name p.children).any (·.node.element.text = value)
  | .hasText value => return p.node.element.text = value
  | .isAt index => match p.parent? with
    | none => return false
    | some parent =>
      return (placeAt? (parent.children.filter (·.node.tag = p.node.tag)) index).any (·.isSame p)

/-- The places that a step leads to from one. -/
def Step.from_ (s : Step) (p : Place) : Except Failure (List Place) := do
  match s with
  | .child name => named name p.children
  | .anyChild => return p.children
  | .stay => return [p]
  | .around => return p.parent?.toList
  | .below none => return p.below
  | .below (some name) => named name p.below
  | .only c => return if ← c.holds p then [p] else []

/-- The places that steps lead to. -/
def follow : List Step → List Place → Except Failure (List Place)
  | [], places => return places
  | s :: rest, places => do follow rest ((← places.mapM s.from_).flatten)

/-- The places that a search finds, beginning at a root. -/
def run (text : String) (root : Element) : Except Failure (List Place) := do
  follow (← steps text) [⟨[], ⟨root, []⟩⟩]

end Search

end GirDoc.Xml
