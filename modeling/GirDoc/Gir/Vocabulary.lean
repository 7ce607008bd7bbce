import GirDoc.Xml.Element

/-!
# The vocabulary of introspection files

The three namespaces of introspection files and the names in them that are looked at.
-/

namespace GirDoc.Gir

/-- The namespace of the elements. -/
def coreSpace : String := "http://www.gtk.org/introspection/core/1.0"

/-- The namespace of what belongs to C. -/
def cSpace : String := "http://www.gtk.org/introspection/c/1.0"

/-- The namespace of what belongs to the object system. -/
def glibSpace : String := "http://www.gtk.org/introspection/glib/1.0"

/-- A name of the first namespace. -/
def core (name : String) : String := Xml.qualified coreSpace name

/-- A name of C. -/
def c (name : String) : String := Xml.qualified cSpace name

/-- A name of the object system. -/
def glib (name : String) : String := Xml.qualified glibSpace name

/-- Whether an element describes a class or an interface. -/
def isClass (n : Xml.Node) : Bool := n.tag = core "class" || n.tag = core "interface"

/-- The name of the type that an element describes: the one that C knows, else the registered one. -/
def typeName? (n : Xml.Node) : Option String :=
  match n.attribute? (c "type") with
  | some name => if name.isEmpty then n.attribute? (glib "type-name") else some name
  | none => n.attribute? (glib "type-name")

/-- A name that may be missing, as it is written inside other names. -/
def spelled (name : Option String) : String := name.getD "None"

end GirDoc.Gir
