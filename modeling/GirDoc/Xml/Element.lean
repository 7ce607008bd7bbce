/-!
# Elements

An element has a name, attributes and child elements. Names are written with their namespace in braces
in front, if they have one. Comments and instructions between elements are not kept, and of texts only what
an element holds as a whole.

The document type may give values to attributes that an element does not have. They are seen only by who asks
for such an attribute by its name.
-/

namespace GirDoc.Xml

/-- What an element holds besides other elements. -/
structure Holding where
  /-- The values that the document type gives to attributes. -/
  fallbacks : List (String × String) := []
  /-- The text in the element, also that in elements below. -/
  text : String := ""
  deriving Repr, Inhabited, BEq

/-- An element of a document. -/
inductive Element where
  | mk (tag : String) (attributes : List (String × String)) (children : List Element)
      (holding : Holding := {})
  deriving Repr, Inhabited, BEq

namespace Element

/-- The name of an element. -/
def tag : Element → String
  | mk tag _ _ _ => tag

/-- The attributes of an element, in order. -/
def attributes : Element → List (String × String)
  | mk _ attributes _ _ => attributes

/-- The child elements of an element, in order. -/
def children : Element → List Element
  | mk _ _ children _ => children

/-- What an element holds besides other elements. -/
def holding : Element → Holding
  | mk _ _ _ holding => holding

/-- The text in an element, also that in elements below. -/
def text (e : Element) : String := e.holding.text

/-- The value of an attribute that the element itself has. -/
def ownAttribute? (e : Element) (name : String) : Option String :=
  e.attributes.lookup name

/-- The value of an attribute, which the document type may have given. -/
def attribute? (e : Element) (name : String) : Option String :=
  (e.ownAttribute? name).or (e.holding.fallbacks.lookup name)

/-- The first child of a name. -/
def child? (e : Element) (tag : String) : Option Element :=
  e.children.find? (·.tag == tag)

/-- The children of a name. -/
def childrenOf (e : Element) (tag : String) : List Element :=
  e.children.filter (·.tag == tag)

end Element

/-- A name in a namespace. -/
def qualified (space name : String) : String :=
  "\x7b" ++ space ++ "\x7d" ++ name

/-- An element in its place: `ancestors` are the elements around it, nearest first. -/
structure Node where
  element : Element
  ancestors : List Element := []
  deriving Repr, Inhabited, BEq

namespace Node

/-- The name of the element. -/
def tag (n : Node) : String := n.element.tag

/-- The value of an attribute of the element. -/
def attribute? (n : Node) (name : String) : Option String := n.element.attribute? name

/-- The value of an attribute that the element itself has. -/
def ownAttribute? (n : Node) (name : String) : Option String := n.element.ownAttribute? name

theorem attribute?_of_own {n : Node} {key value : String} (h : n.ownAttribute? key = some value) :
    n.attribute? key = some value := by
  have hown : n.element.ownAttribute? key = some value := h
  rw [attribute?, Element.attribute?, hown]
  rfl

/-- The node around this one. -/
def parent? (n : Node) : Option Node :=
  match n.ancestors with
  | [] => none
  | e :: rest => some ⟨e, rest⟩

/-- The children of a node in their places. -/
def children (n : Node) : List Node :=
  n.element.children.map fun e => ⟨e, n.element :: n.ancestors⟩

/-- The first child of a name, in its place. -/
def child? (n : Node) (tag : String) : Option Node :=
  n.children.find? (·.tag == tag)

/-- The children of a name, in their places. -/
def childrenOf (n : Node) (tag : String) : List Node :=
  n.children.filter (·.tag == tag)

end Node

mutual

/-- An element and all elements below it in document order, each with the elements around it. -/
def withDescendants (ancestors : List Element) : Element → List Node
  | .mk tag attributes children holding =>
    let e := Element.mk tag attributes children holding
    ⟨e, ancestors⟩ :: allDescendants (e :: ancestors) children

/-- All elements of a list and below, in document order. -/
def allDescendants (ancestors : List Element) : List Element → List Node
  | [] => []
  | e :: rest => withDescendants ancestors e ++ allDescendants ancestors rest

end

/-- The elements below a node in document order, in their places. -/
def Node.descendants (n : Node) : List Node :=
  allDescendants (n.element :: n.ancestors) n.element.children

end GirDoc.Xml
