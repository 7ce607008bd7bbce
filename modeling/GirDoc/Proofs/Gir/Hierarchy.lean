import Mathlib.Data.Fintype.EquivFin
import Mathlib.Logic.Relation
import GirDoc.Gir.Hierarchy
import GirDoc.Proofs.Attempt
import GirDoc.Proofs.Value.Dictionary

/-!
# Ancestors and children of classes

The hierarchy of a class lists its proper ancestors from the root down, and the children of a class are the
classes that extend it, each once. Both follow from how classes extend each other alone: the order in which
the classes are gone through and the number of times that an edge is met leave no trace.

* `Lineage x n chain` is the chain of ancestors of a class. Without cycles every class has one (`exists_lineage`).
* `Climb x n chain top` goes up from a class through parents that are there. A way up that ends visits no class twice
  (`Climb.nodup`), so it is no longer than there are classes. A lineage is one that ends at a class without a parent.
* One walk along a chain adds edges, and only edges that are there (`start_ancestors`). What is kept by adding
  one edge is kept by all walks.
-/

namespace GirDoc.Gir

open Xml

/-! ## How classes extend each other -/

/-- The parent that a class names is the class of that key: a name with a dot as it stands, any other in the
namespace around the class. -/
def ResolvesTo (n : Node) (key : String) : Prop :=
  ∃ name, n.attribute? "parent" = some name ∧ name ≠ "" ∧
    ('.' ∈ name.toList ∧ key = name ∨
      '.' ∉ name.toList ∧ ∃ space s, n.parent? = some space ∧ space.attribute? "name" = some s ∧
        key = s ++ "." ++ name)

/-- A class names no parent. -/
def IsRootClass (n : Node) : Prop :=
  ∀ name, n.attribute? "parent" = some name → name = ""

theorem parentKey_eq_some_iff {n : Node} {key : String} :
    parentKey n = .ok (some key) ↔ ResolvesTo n key := by
  unfold parentKey ResolvesTo
  cases hp : n.attribute? "parent" with
  | none => simp
  | some name =>
    by_cases he : name = ""
    · simp [he]
    · by_cases hd : '.' ∈ name.toList
      · simp [he, hd, @eq_comm _ key name]
      · cases hs : n.parent? with
        | none => simp [he, hd]
        | some space =>
          cases hn : space.attribute? "name" with
          | none => simp [he, hd, hn]
          | some s => simp [he, hd, hn, @eq_comm _ key]

theorem parentKey_eq_none_iff {n : Node} : parentKey n = .ok none ↔ IsRootClass n := by
  unfold parentKey IsRootClass
  cases hp : n.attribute? "parent" with
  | none => simp
  | some name =>
    by_cases he : name = ""
    · simp [he]
    · by_cases hd : '.' ∈ name.toList
      · simp [he, hd]
      · cases hs : n.parent? with
        | none => simp [he, hd]
        | some space => cases hn : space.attribute? "name" <;> simp [he, hd, hn]

theorem ResolvesTo.unique {n : Node} {key key' : String} (h : ResolvesTo n key)
    (h' : ResolvesTo n key') : key = key' := by
  have he := (parentKey_eq_some_iff.mpr h).symm.trans (parentKey_eq_some_iff.mpr h')
  exact Option.some.inj (Except.ok.inj he)

/-- The class of the key `a` extends that of the key `b`. -/
def Extends (x : Index) (a b : String) : Prop :=
  ∃ n, x.class? a = some n ∧ ResolvesTo n b

/-- The ancestors of a class with their keys, nearest first. -/
inductive Lineage (x : Index) : Node → List (String × Node) → Prop where
  | root {n : Node} (h : IsRootClass n) : Lineage x n []
  | step {n p : Node} {key : String} {chain : List (String × Node)} (hp : ResolvesTo n key)
      (hc : x.class? key = some p) (rest : Lineage x p chain) : Lineage x n ((key, p) :: chain)

/-- Every class that names a parent names a class that is there. -/
def ParentsResolve (x : Index) : Prop :=
  ∀ k n, (k, n) ∈ x.classes → IsRootClass n ∨ ∃ key p, ResolvesTo n key ∧ x.class? key = some p

/-- The children noted so far are children, each noted once. In an index of which no hierarchies were found
yet there are none. -/
def ChildrenHold (x : Index) : Prop :=
  ∀ p, (x.childrenOf p).Nodup ∧ ∀ t ∈ x.childrenOf p,
    ∃ k n, (k, n) ∈ x.classes ∧ ResolvesTo n p ∧ typeName? n = t

/-- No class is its own ancestor. -/
def IsAcyclic (x : Index) : Prop := ∀ k, ¬ Relation.TransGen (Extends x) k k

variable {x y : Index}

/-- Classes are acyclic where a rank goes down from each class to its parent. -/
theorem isAcyclic_of_rank (rank : String → Nat)
    (h : ∀ k n key, (k, n) ∈ x.classes → ResolvesTo n key → rank key < rank k) : IsAcyclic x := by
  have hlt {a b : String} (hab : Relation.TransGen (Extends x) a b) : rank b < rank a := by
    induction hab with
    | single hab =>
      obtain ⟨n, hn, hp⟩ := hab
      exact h _ n _ (Value.mem_of_lookup hn) hp
    | tail _ hbc ih =>
      obtain ⟨n, hn, hp⟩ := hbc
      exact (h _ n _ (Value.mem_of_lookup hn) hp).trans ih
  exact fun k hk => (hlt hk).false

/-- **Without cycles every class has its chain of ancestors.** -/
theorem exists_lineage (hresolve : ParentsResolve x) (hacyclic : IsAcyclic x) {k : String} {n : Node}
    (hk : x.class? k = some n) : ∃ chain, Lineage x n chain := by
  -- going up is well-founded, since there are finitely many keys
  let above (a b : {k // k ∈ x.classes.map Prod.fst}) : Prop :=
    Relation.TransGen (Extends x) b.1 a.1
  have : IsTrans _ above := ⟨fun _ _ _ hab hbc => hbc.trans hab⟩
  have : Std.Irrefl above := ⟨fun a => hacyclic a.1⟩
  have hwf : WellFounded above := Finite.wellFounded_of_trans_of_irrefl above
  have hmem {k : String} {n : Node} (hk : x.class? k = some n) : k ∈ x.classes.map Prod.fst :=
    List.mem_map_of_mem (Value.mem_of_lookup hk)
  suffices hall : ∀ a : {k // k ∈ x.classes.map Prod.fst}, ∀ n, x.class? a.1 = some n →
      ∃ chain, Lineage x n chain from hall ⟨k, hmem hk⟩ n hk
  intro a
  induction a using hwf.induction with
  | _ a ih =>
    intro n hn
    rcases hresolve _ n (Value.mem_of_lookup hn) with hroot | ⟨key, p, hp, hc⟩
    · exact ⟨[], .root hroot⟩
    · obtain ⟨chain, hchain⟩ := ih ⟨key, hmem hc⟩ (.single ⟨n, hn, hp⟩) p hc
      exact ⟨_, .step hp hc hchain⟩

/-! ## Ways up -/

/-- The way up from a class to another, through parents that are there. -/
inductive Climb (x : Index) : Node → List (String × Node) → Node → Prop where
  | here (n : Node) : Climb x n [] n
  | up {n p top : Node} {key : String} {chain : List (String × Node)} (hp : ResolvesTo n key)
      (hc : x.class? key = some p) (rest : Climb x p chain top) : Climb x n ((key, p) :: chain) top

/-- A class has a parent that is there. -/
def HasParent (x : Index) (n : Node) : Prop := ∃ key p, ResolvesTo n key ∧ x.class? key = some p

variable {n p top top' : Node} {key : String} {chain chain' : List (String × Node)}

theorem IsRootClass.not_resolvesTo (h : IsRootClass n) : ¬ ResolvesTo n key := by
  rintro ⟨name, hname, hne, -⟩
  exact hne (h name hname)

theorem IsRootClass.not_hasParent (h : IsRootClass n) : ¬ HasParent x n := by
  rintro ⟨key, p, hp, -⟩
  exact h.not_resolvesTo hp

/-- A lineage is a way up to a class without a parent. -/
theorem lineage_iff_climb : Lineage x n chain ↔ ∃ top, Climb x n chain top ∧ IsRootClass top := by
  constructor
  · intro h
    induction h with
    | root hroot => exact ⟨_, .here _, hroot⟩
    | step hp hc _ ih =>
      obtain ⟨top, hclimb, hroot⟩ := ih
      exact ⟨top, .up hp hc hclimb, hroot⟩
  · rintro ⟨top, hclimb, hroot⟩
    induction hclimb with
    | here => exact .root hroot
    | up hp hc _ ih => exact .step hp hc (ih hroot)

/-- There is one way up to where it ends. -/
theorem Climb.unique (h : Climb x n chain top) (h' : Climb x n chain' top') (hstuck : ¬ HasParent x top)
    (hstuck' : ¬ HasParent x top') : chain = chain' := by
  induction h generalizing chain' with
  | here n =>
    cases h' with
    | here => rfl
    | up hp hc rest => exact absurd ⟨_, _, hp, hc⟩ hstuck
  | up hp hc rest ih =>
    cases h' with
    | here => exact absurd ⟨_, _, hp, hc⟩ hstuck'
    | up hp' hc' rest' =>
      obtain rfl := hp.unique hp'
      obtain rfl := Option.some.inj (hc.symm.trans hc')
      rw [ih rest' hstuck]

/-- From a class on the way up it is a shorter way. -/
theorem Climb.of_mem (h : Climb x n chain top) (hmem : (key, p) ∈ chain) :
    x.class? key = some p ∧ ∃ rest, rest.length < chain.length ∧ Climb x p rest top := by
  induction h with
  | here => cases hmem
  | @up n p' top key' chain hp hc rest ih =>
    rcases List.mem_cons.mp hmem with heq | hmem
    · cases heq
      exact ⟨hc, chain, Nat.lt_succ_self _, rest⟩
    · obtain ⟨hclass, rest', hlength, hclimb⟩ := ih hmem
      exact ⟨hclass, rest', Nat.lt_succ_of_lt hlength, hclimb⟩

/-- No class is met again on a way up that ends. -/
theorem Climb.not_mem (h : Climb x p chain top) (hstuck : ¬ HasParent x top) (hkey : x.class? key = some p) :
    key ∉ chain.map Prod.fst := by
  intro hmem
  obtain ⟨⟨_, p'⟩, he, rfl⟩ := List.mem_map.mp hmem
  obtain ⟨hclass, rest, hlength, hclimb⟩ := h.of_mem he
  obtain rfl := Option.some.inj (hkey.symm.trans hclass)
  exact absurd (congrArg List.length (h.unique hclimb hstuck hstuck)) (Nat.ne_of_gt hlength)

theorem Climb.nodup (h : Climb x n chain top) (hstuck : ¬ HasParent x top) : (chain.map Prod.fst).Nodup := by
  induction h with
  | here => exact List.nodup_nil
  | up hp hc rest ih =>
    rw [List.map_cons, List.nodup_cons]
    exact ⟨rest.not_mem hstuck hc, ih hstuck⟩

theorem Climb.length_le_of_nodup (h : Climb x n chain top) (hnodup : (chain.map Prod.fst).Nodup) :
    chain.length ≤ x.classes.length := by
  have hsub : chain.map Prod.fst ⊆ x.classes.map Prod.fst := by
    intro k hk
    obtain ⟨⟨_, p⟩, he, rfl⟩ := List.mem_map.mp hk
    exact List.mem_map_of_mem (Value.mem_of_lookup (h.of_mem he).1)
  simpa using (List.subperm_of_subset hnodup hsub).length_le

/-- A way up that ends is no longer than there are classes. -/
theorem Climb.length_le (h : Climb x n chain top) (hstuck : ¬ HasParent x top) : chain.length ≤ x.classes.length :=
  h.length_le_of_nodup (h.nodup hstuck)

/-- A class has no more ancestors than there are classes. -/
theorem Lineage.length_le (h : Lineage x n chain) : chain.length ≤ x.classes.length := by
  obtain ⟨top, hclimb, hroot⟩ := lineage_iff_climb.mp h
  exact hclimb.length_le hroot.not_hasParent

theorem Lineage.unique (h : Lineage x n chain) (h' : Lineage x n chain') : chain = chain' := by
  obtain ⟨top, hclimb, hroot⟩ := lineage_iff_climb.mp h
  obtain ⟨top', hclimb', hroot'⟩ := lineage_iff_climb.mp h'
  exact hclimb.unique hclimb' hroot.not_hasParent hroot'.not_hasParent

/-! ## Adding edges -/

theorem childrenOf_addChild (x : Index) (key p : String) (t : Option String) :
    (addChild x key t).childrenOf p =
      if p = key then insertNew (x.childrenOf key) t else x.childrenOf p := by
  simp only [addChild, Index.childrenOf, Value.lookup_put]
  split <;> rfl

/-- Notes edges one after the other: the key of a class, and the type name of one that extends it. -/
def addEdges (x : Index) (edges : List (String × Option String)) : Index :=
  edges.foldl (fun x e => addChild x e.1 e.2) x

theorem mem_childrenOf_addEdges {edges : List (String × Option String)} {p : String}
    {t : Option String} :
    t ∈ (addEdges x edges).childrenOf p ↔ t ∈ x.childrenOf p ∨ (p, t) ∈ edges := by
  induction edges generalizing x with
  | nil => simp [addEdges]
  | cons e rest ih =>
    obtain ⟨key, t'⟩ := e
    have hfirst : t ∈ (addChild x key t').childrenOf p ↔ t ∈ x.childrenOf p ∨ p = key ∧ t = t' := by
      rw [childrenOf_addChild]
      split
      · next h => simp [h, mem_insertNew]
      · next h => simp [h]
    show t ∈ (addEdges (addChild x key t') rest).childrenOf p ↔ _
    rw [ih, hfirst, List.mem_cons, Prod.mk.injEq, or_assoc]

theorem nodup_childrenOf_addEdges {edges : List (String × Option String)} {p : String}
    (h : ∀ p, (x.childrenOf p).Nodup) : ((addEdges x edges).childrenOf p).Nodup := by
  induction edges generalizing x with
  | nil => exact h p
  | cons e rest ih =>
    refine ih fun q => ?_
    rw [childrenOf_addChild]
    split
    · exact nodup_insertNew (h _) _
    · exact h q

/-- Edges are added to the children alone. -/
theorem addEdges_eq (x : Index) (edges : List (String × Option String)) :
    addEdges x edges = { x with children := (addEdges x edges).children } := by
  induction edges generalizing x with
  | nil => rfl
  | cons e rest ih => exact ih (addChild x e.1 e.2)

/-! ## One chain of ancestors -/

/-- The edges along a chain of ancestors. -/
def edgesOf : Node → List (String × Node) → List (String × Option String)
  | _, [] => []
  | n, (key, p) :: rest => (key, typeName? n) :: edgesOf p rest

/-- **Going up from a class gives its ancestors and adds the edges of the way.** -/
theorem start_ancestors {n : Node} {chain : List (String × Node)} (h : Lineage x n chain) {fuel : Nat}
    (hfuel : chain.length < fuel) (hy : y.classes = x.classes) :
    (ancestors fuel n).start y
      = (.ok (chain.map fun e => typeName? e.2), addEdges y (edgesOf n chain)) := by
  induction h generalizing fuel y with
  | root hroot =>
    obtain ⟨fuel, rfl⟩ : ∃ k, fuel = k + 1 := ⟨fuel - 1, by simp at hfuel; omega⟩
    rw [ancestors, Attempt.start_bind_ok (Attempt.start_ofExcept _ _ |>.trans
      (by rw [parentKey_eq_none_iff.mpr hroot]))]
    rfl
  | @step n p key chain hp hc rest ih =>
    obtain ⟨fuel, rfl⟩ : ∃ k, fuel = k + 1 := ⟨fuel - 1, by simp at hfuel; omega⟩
    have hclass : y.class? key = some p := by rw [← hc, Index.class?, hy, Index.class?]
    have hrest := ih (y := addChild y key (typeName? n))
      (show chain.length < fuel by simpa using hfuel) hy
    rw [ancestors, Attempt.start_bind_ok (Attempt.start_ofExcept _ _ |>.trans
      (by rw [parentKey_eq_some_iff.mpr hp]))]
    show (get >>= _ : Attempt Index _).start y = _
    rw [Attempt.start_bind_ok (Attempt.start_get y), hclass,
      Attempt.start_bind_ok (Attempt.start_need_some _ _ _),
      Attempt.start_bind_ok (Attempt.start_modify _ _), Attempt.start_bind_ok hrest]
    rfl

/-- A class that extends another is met on its own way up, and every edge met there is one. -/
theorem Lineage.edge_of_mem {n : Node} {chain : List (String × Node)} (h : Lineage x n chain)
    {k p : String} {t : Option String} (hn : (k, n) ∈ x.classes) (ht : (p, t) ∈ edgesOf n chain) :
    ∃ k' m, (k', m) ∈ x.classes ∧ ResolvesTo m p ∧ typeName? m = t := by
  induction h generalizing k with
  | root => simp [edgesOf] at ht
  | step hp hc _ ih =>
    rcases List.mem_cons.mp ht with he | hmem
    · cases he
      exact ⟨k, _, hn, hp, rfl⟩
    · exact ih (Value.mem_of_lookup hc) hmem

theorem Lineage.mem_edgesOf {n : Node} {chain : List (String × Node)} (h : Lineage x n chain)
    {p : String} (hp : ResolvesTo n p) : (p, typeName? n) ∈ edgesOf n chain := by
  cases h with
  | root hroot => exact absurd hp hroot.not_resolvesTo
  | step hp' =>
    obtain rfl := hp.unique hp'
    exact List.mem_cons_self

/-! ## All classes -/

/-- Going through one class: its ancestors are found and noted. -/
def noteClass (fuel : Nat) (e : String × Node) : Attempt Index Unit := do
  let found ← ancestors fuel e.2
  modify fun x => { x with hierarchies := Value.put x.hierarchies e.1 found.reverse }

theorem createHierarchies_eq (x : Index) :
    createHierarchies.start x
      = (x.classes.forM (noteClass (x.classes.length + 1))).start x := by
  rw [createHierarchies, Attempt.start_bind_ok (Attempt.start_get x)]
  rfl

/-- What going through the classes `todo` does to an index. -/
structure Noted (x y z : Index) (todo : List (String × Node)) : Prop where
  same : z = { y with hierarchies := z.hierarchies, children := z.children }
  hierarchy : ∀ e ∈ todo, ∃ chain, Lineage x e.2 chain ∧
    z.hierarchies.lookup e.1 = some (chain.map fun a => typeName? a.2).reverse
  otherHierarchy : ∀ k, k ∉ todo.map Prod.fst → z.hierarchies.lookup k = y.hierarchies.lookup k
  mem_children : ∀ p t, t ∈ z.childrenOf p ↔ t ∈ y.childrenOf p ∨
    ∃ e ∈ todo, ∃ chain, Lineage x e.2 chain ∧ (p, t) ∈ edgesOf e.2 chain
  nodup_children : (∀ p, (y.childrenOf p).Nodup) → ∀ p, (z.childrenOf p).Nodup

theorem start_forM_noteClass (hresolve : ParentsResolve x) (hacyclic : IsAcyclic x) :
    ∀ (todo : List (String × Node)) (y : Index), todo ⊆ x.classes →
    (todo.map Prod.fst).Nodup → y.classes = x.classes →
    ∃ z, (todo.forM (noteClass (x.classes.length + 1))).start y = (.ok (), z) ∧ Noted x y z todo
  | [], y, _, _, _ => ⟨y, rfl, rfl, by simp, by simp, by simp, fun h => h⟩
  | (k, n) :: rest, y, hsub, hnodup, hy => by
    have hn : (k, n) ∈ x.classes := hsub List.mem_cons_self
    obtain ⟨chain, hchain⟩ := exists_lineage hresolve hacyclic (Value.lookup_of_mem x.nodup_classes hn)
    have hfuel : chain.length < x.classes.length + 1 := Nat.lt_succ_of_le hchain.length_le
    rw [List.map_cons, List.nodup_cons] at hnodup
    -- the index after the first class
    let found := (chain.map fun a => typeName? a.2).reverse
    let y' : Index := { addEdges y (edgesOf n chain) with
      hierarchies := Value.put (addEdges y (edgesOf n chain)).hierarchies k found }
    have hfirst : (noteClass (x.classes.length + 1) (k, n)).start y = (.ok (), y') := by
      rw [noteClass, Attempt.start_bind_ok (start_ancestors hchain hfuel hy), Attempt.start_modify]
    have hsame : y' = { y with hierarchies := y'.hierarchies, children := y'.children } := by
      simp only [y']
      rw [addEdges_eq y]
    have hy' : y'.classes = x.classes := by rw [hsame]; exact hy
    obtain ⟨z, hz, hnoted⟩ := start_forM_noteClass hresolve hacyclic rest y'
      (fun e he => hsub (List.mem_cons_of_mem _ he)) hnodup.2 hy'
    refine ⟨z, ?_, ?_, ?_, ?_, ?_, ?_⟩
    · rw [Attempt.start_forM_cons_ok hfirst, hz]
    · rw [hnoted.same, hsame]
    · intro e he
      rcases List.mem_cons.mp he with rfl | hmem
      · refine ⟨chain, hchain, ?_⟩
        rw [hnoted.otherHierarchy k hnodup.1, Value.lookup_put, if_pos rfl]
      · exact hnoted.hierarchy e hmem
    · intro k' hk'
      rw [List.map_cons, List.mem_cons, not_or] at hk'
      rw [hnoted.otherHierarchy k' hk'.2, Value.lookup_put, if_neg hk'.1, addEdges_eq y]
    · intro p t
      rw [hnoted.mem_children]
      show (t ∈ (addEdges y (edgesOf n chain)).childrenOf p ∨ _) ↔ _
      rw [mem_childrenOf_addEdges, or_assoc, List.exists_mem_cons_iff]
      refine or_congr_right (or_congr_left ⟨fun h => ⟨chain, hchain, h⟩, ?_⟩)
      rintro ⟨chain', hchain', h⟩
      rwa [hchain.unique hchain']
    · intro hnd
      exact hnoted.nodup_children fun p => nodup_childrenOf_addEdges hnd

/-- **Hierarchies and children of a forest of classes.** Where every class that names a parent names one
that is there and no class is its own ancestor, finding the hierarchies succeeds. The hierarchy of a class is
then its ancestors from the root down, and the children of a class are those that extend it, each once. -/
theorem start_createHierarchies (x : Index) (hchildren : ChildrenHold x) (hresolve : ParentsResolve x)
    (hacyclic : IsAcyclic x) :
    ∃ y, createHierarchies.start x = (.ok (), y) ∧
      y = { x with hierarchies := y.hierarchies, children := y.children } ∧
      (∀ k n, (k, n) ∈ x.classes → ∃ chain, Lineage x n chain ∧
        y.hierarchies.lookup k = some (chain.reverse.map fun a => typeName? a.2)) ∧
      ∀ p, (y.childrenOf p).Nodup ∧ ∀ t, t ∈ y.childrenOf p ↔
        ∃ k n, (k, n) ∈ x.classes ∧ ResolvesTo n p ∧ typeName? n = t := by
  obtain ⟨y, hy, hnoted⟩ := start_forM_noteClass hresolve hacyclic x.classes x (List.Subset.refl _)
    x.nodup_classes rfl
  refine ⟨y, (createHierarchies_eq x).trans hy, hnoted.same, fun k n hn => ?_, fun p => ⟨?_, fun t => ?_⟩⟩
  · obtain ⟨chain, hchain, hlookup⟩ := hnoted.hierarchy (k, n) hn
    exact ⟨chain, hchain, by rw [List.map_reverse, hlookup]⟩
  · exact hnoted.nodup_children (fun p => (hchildren p).1) p
  · rw [hnoted.mem_children]
    constructor
    · rintro (hmem | ⟨⟨k, n⟩, hn, chain, hchain, hmem⟩)
      · exact (hchildren p).2 t hmem
      · exact hchain.edge_of_mem hn hmem
    · rintro ⟨k, n, hn, hp, rfl⟩
      obtain ⟨chain, hchain⟩ := exists_lineage hresolve hacyclic (Value.lookup_of_mem x.nodup_classes hn)
      exact Or.inr ⟨(k, n), hn, chain, hchain, hchain.mem_edgesOf hp⟩

/-- A class of the namespace `N`. -/
def classOfN (typeName parent : String) : Node where
  element := .mk (core "class") [(c "type", typeName), ("parent", parent)] []
  ancestors := [.mk (core "namespace") [("name", "N")] []]

/-- Three classes, each a child of the next. One names its parent with the namespace, one without. -/
def threeClasses : Index where
  classes := [("N.C", classOfN "NC" "N.B"), ("N.B", classOfN "NB" "A"), ("N.A", classOfN "NA" "")]
  nodup_classes := by decide
  typed_classes := by decide

theorem createHierarchies_threeClasses :
    ChildrenHold threeClasses ∧ ParentsResolve threeClasses ∧ IsAcyclic threeClasses ∧
    ∃ y, createHierarchies.start threeClasses = (.ok (), y) ∧
      y.hierarchies.lookup "N.C" = some [some "NA", some "NB"] ∧
      some "NB" ∈ y.childrenOf "N.A" ∧ some "NC" ∉ y.childrenOf "N.A" := by
  have hC : ResolvesTo (classOfN "NC" "N.B") "N.B" := parentKey_eq_some_iff.mp rfl
  have hB : ResolvesTo (classOfN "NB" "A") "N.A" := parentKey_eq_some_iff.mp rfl
  have hA : IsRootClass (classOfN "NA" "") := parentKey_eq_none_iff.mp rfl
  have hcases {P : String → Node → Prop} (hPC : P "N.C" (classOfN "NC" "N.B"))
      (hPB : P "N.B" (classOfN "NB" "A")) (hPA : P "N.A" (classOfN "NA" "")) :
      ∀ k n, (k, n) ∈ threeClasses.classes → P k n := by
    intro k n h
    simp only [threeClasses, List.mem_cons, Prod.mk.injEq, List.not_mem_nil, or_false] at h
    rcases h with ⟨rfl, rfl⟩ | ⟨rfl, rfl⟩ | ⟨rfl, rfl⟩ <;> assumption
  have hresolve : ParentsResolve threeClasses :=
    hcases (.inr ⟨_, _, hC, rfl⟩) (.inr ⟨_, _, hB, rfl⟩) (.inl hA)
  have hacyclic : IsAcyclic threeClasses := by
    let rank (k : String) : Nat := ["N.A", "N.B", "N.C"].idxOf k
    have hrank : ∀ k n, (k, n) ∈ threeClasses.classes → ∀ key, ResolvesTo n key → rank key < rank k :=
      hcases (fun key h => by rw [h.unique hC]; decide) (fun key h => by rw [h.unique hB]; decide)
        (fun key h => absurd h hA.not_resolvesTo)
    exact isAcyclic_of_rank rank fun k n key hmem => hrank k n hmem key
  have hchildren : ChildrenHold threeClasses := fun p => ⟨List.nodup_nil, fun t ht => by cases ht⟩
  obtain ⟨y, hy, -, hhier, hfound⟩ :=
    start_createHierarchies threeClasses hchildren hresolve hacyclic
  refine ⟨hchildren, hresolve, hacyclic, y, hy, ?_, ?_, ?_⟩
  · obtain ⟨chain, hchain, hlookup⟩ := hhier "N.C" _ List.mem_cons_self
    rw [hlookup, hchain.unique (.step hC rfl (.step hB rfl (.root hA)))]
    rfl
  · exact ((hfound "N.A").2 _).mpr ⟨"N.B", _, by simp [threeClasses], hB, rfl⟩
  · intro hmem
    obtain ⟨k, n, hn, hp, ht⟩ := ((hfound "N.A").2 _).mp hmem
    have hnot : ∀ k n, (k, n) ∈ threeClasses.classes → ResolvesTo n "N.A" → typeName? n ≠ some "NC" :=
      hcases (fun hp => absurd (hp.unique hC) (by decide)) (fun _ => by decide) (fun _ => by decide)
    exact hnot k n hn hp ht

end GirDoc.Gir
