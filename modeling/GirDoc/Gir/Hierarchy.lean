import GirDoc.Attempt
import GirDoc.Gir.Index
import GirDoc.Gir.Vocabulary

/-!
# Hierarchies of classes

A class names the class that it extends, in its own namespace unless the name says otherwise. From that
follow the ancestors of each class and the classes that extend it.
-/

namespace GirDoc.Gir

open Xml

/-- The namespaced name of the class that a class extends. -/
def parentKey (n : Node) : Except Fault (Option String) :=
  match n.attribute? "parent" with
  | none => .ok none
  | some name =>
    if name.isEmpty then .ok none
    else if name.toList.contains '.' then .ok (some name)
    else match n.parent? with
      | none => .error .noSuchPart
      | some space => match space.attribute? "name" with
        | none => .error .missingKey
        | some s => .ok (some (s ++ "." ++ name))

/-- Notes that a class of a type name extends another. -/
def addChild (x : Index) (key : String) (child : Option String) : Index :=
  { x with children := Value.put x.children key (insertNew (x.childrenOf key) child) }

/-- The type names of the ancestors of a class, nearest first; on the way the classes that extend them
are noted. A chain of classes without a cycle has at most `fuel` of them. -/
def ancestors : (fuel : Nat) → Node → Attempt Index (List (Option String))
  | 0, _ => throw .tooDeep
  | fuel + 1, n => do
    match ← Attempt.ofExcept (parentKey n) with
    | none => return []
    | some key =>
      let parent ← Attempt.need .missingKey ((← get).class? key)
      modify fun x => addChild x key (typeName? n)
      return typeName? parent :: (← ancestors fuel parent)

/-- Finds the ancestors of all classes. -/
def createHierarchies : Attempt Index Unit := do
  let classes := (← get).classes
  classes.forM fun (key, n) => do
    let found ← ancestors (classes.length + 1) n
    modify fun x => { x with hierarchies := Value.put x.hierarchies key found.reverse }

end GirDoc.Gir
