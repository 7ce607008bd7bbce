import GirDoc.Gir.Vocabulary
import GirDoc.Value.Basic

/-!
# The index of introspection files

What is known of the elements in introspection files: the elements by the names of the symbols that they
describe, the classes by their namespaced names, and what follows from how classes extend each other.
-/

namespace GirDoc.Gir

/-- Adds an item to a list without repetitions. -/
def insertNew {α : Type} [DecidableEq α] (items : List α) (a : α) : List α :=
  if a ∈ items then items else items ++ [a]

theorem mem_insertNew {α : Type} [DecidableEq α] {items : List α} {a b : α} :
    b ∈ insertNew items a ↔ b ∈ items ∨ b = a := by
  unfold insertNew
  split
  · next h => exact ⟨Or.inl, fun hb => hb.elim id fun he => he ▸ h⟩
  · simp

theorem nodup_insertNew {α : Type} [DecidableEq α] {items : List α} (h : items.Nodup) (a : α) :
    (insertNew items a).Nodup := by
  unfold insertNew
  split
  · exact h
  · next ha =>
    rw [List.nodup_append]
    refine ⟨h, by simp, fun b hb c hc he => ?_⟩
    rw [List.mem_singleton] at hc
    exact ha (hc ▸ he ▸ hb)

/-- The index of all files read so far. -/
structure Index where
  /-- The files read because another one includes them. -/
  parsed : List String := []
  /-- The elements by the names of the symbols that they describe. -/
  nodes : List (String × Xml.Node) := []
  /-- The classes and interfaces by their namespaced names. -/
  classes : List (String × Xml.Node) := []
  /-- The functions that give the types of classes. -/
  typeFunctions : List (Option String) := []
  /-- The names of the macros that every class has. -/
  macroNames : List String := []
  /-- The type names of the ancestors of each class, the root first. -/
  hierarchies : List (String × List (Option String)) := []
  /-- The type names of the classes that extend each class. -/
  children : List (String × List (Option String)) := []
  /-- Every class has a name of its own. -/
  nodup_classes : (classes.map Prod.fst).Nodup
  /-- C knows every class by a name. -/
  typed_classes : ∀ e ∈ classes, (e.2.attribute? (c "type")).isSome

namespace Index

/-- The index of no files. -/
def empty : Index where
  nodup_classes := by simp
  typed_classes := by simp

instance : Inhabited Index := ⟨empty⟩

/-- The element of a symbol. -/
def node? (x : Index) (name : String) : Option Xml.Node := x.nodes.lookup name

/-- The class of a namespaced name. -/
def class? (x : Index) (name : String) : Option Xml.Node := x.classes.lookup name

/-- The type names of the classes that extend a class. -/
def childrenOf (x : Index) (name : String) : List (Option String) :=
  (x.children.lookup name).getD []

/-- Notes the element of a symbol. -/
def putNode (x : Index) (name : String) (n : Xml.Node) : Index :=
  { x with nodes := Value.put x.nodes name n }

/-- Notes a class by its namespaced name. -/
def putClass (x : Index) (key : String) (n : Xml.Node) (htype : (n.attribute? (c "type")).isSome) : Index :=
  { x with
    classes := Value.put x.classes key n
    nodup_classes := Value.nodup_keys_put x.nodup_classes key n
    typed_classes := by
      intro e he
      rcases Value.mem_of_mem_put he with rfl | hold
      · exact htype
      · exact x.typed_classes e hold }

end Index

/-- The names of symbols in each language, as far as they were asked for. -/
structure Names where
  c : List (String × String) := []
  python : List (String × String) := []
  javascript : List (String × String) := []
  deriving Inhabited

end GirDoc.Gir
