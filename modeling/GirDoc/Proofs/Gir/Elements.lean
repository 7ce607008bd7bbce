import Mathlib.Data.List.Basic
import Mathlib.Tactic.MkIffOfInductiveProp
import GirDoc.Gir.Reading
import GirDoc.Proofs.Attempt
import GirDoc.Proofs.Value.Dictionary

/-!
# What a file adds to the index

Reading the elements of a well-formed file succeeds. What it makes of the index depends on the index alone,
and not on which files were opened before. The classes that it adds are those of the file that have a type
name, each under its dotted name.

* `Notes m entries` says this of a step: it succeeds, it leaves the opened files alone, and it puts
  `entries` into the classes. It is kept by doing one step after the other, so one lemma for each kind of
  element is enough.
* `WellFormed root` is what a file has to have for that.
-/

namespace GirDoc.Gir

open Xml

/-! ## Elements in their places -/

theorem mem_allDescendants {outer : List Element} {es : List Element} {n : Node} :
    n ∈ allDescendants outer es ↔
      ∃ e ∈ es, n = ⟨e, outer⟩ ∨ n ∈ allDescendants (e :: outer) e.children := by
  induction es with
  | nil => simp [allDescendants]
  | cons e rest ih =>
    obtain ⟨tag, attributes, children, holding⟩ := e
    rw [allDescendants, withDescendants, List.mem_append, List.mem_cons, ih, List.exists_mem_cons_iff]
    rfl

theorem suffix_ancestors {n : Node} : ∀ {es : List Element} {outer : List Element},
    n ∈ allDescendants outer es → outer <:+ n.ancestors
  | [], _, h => by simp [allDescendants] at h
  | .mk _ _ children _ :: rest, outer, h => by
    rw [allDescendants, withDescendants, List.mem_append, List.mem_cons] at h
    rcases h with (rfl | hbelow) | hrest
    · exact List.suffix_refl outer
    · exact (List.suffix_cons _ outer).trans (suffix_ancestors hbelow)
    · exact suffix_ancestors hrest

/-- The elements two levels below the root. -/
theorem mem_descendants_two {root space outer e : Element} :
    (⟨e, [space, outer]⟩ : Node) ∈ (⟨root, []⟩ : Node).descendants ↔
      outer = root ∧ space ∈ root.children ∧ e ∈ space.children := by
  rw [Node.descendants, mem_allDescendants]
  constructor
  · rintro ⟨e₁, h₁, he | hbelow⟩
    · simp at he
    obtain ⟨e₂, h₂, he | hdeep⟩ := mem_allDescendants.mp hbelow
    · simp only [Node.mk.injEq, List.cons.injEq, and_true] at he
      obtain ⟨rfl, rfl, rfl⟩ := he
      exact ⟨rfl, h₁, h₂⟩
    · simpa using (suffix_ancestors hdeep).length_le
  · rintro ⟨rfl, hspace, he⟩
    exact ⟨space, hspace, Or.inr (mem_allDescendants.mpr ⟨e, he, Or.inl rfl⟩)⟩

/-! ## Steps that note elements -/

/-- What a step makes of an index. -/
def effect (m : Read Unit) (x : Index) : Index := (m.start { index := x }).2.index

/-- A step succeeds, takes no notice of the opened files, and puts entries into the classes. -/
structure Notes (m : Read Unit) (entries : List (String × Node)) : Prop where
  run : ∀ r, m.start r = (.ok (), { r with index := effect m r.index })
  frame : ∀ x parsed, effect m { x with parsed } = { effect m x with parsed }
  classes : ∀ x, (effect m x).classes = Value.putAll x.classes entries

variable {m m' : Read Unit} {entries entries' : List (String × Node)}

theorem Notes.done : Notes (pure ()) [] := ⟨fun _ => rfl, fun _ _ => rfl, fun _ => rfl⟩

/-- A change that takes no notice of the opened files. -/
theorem Notes.change {f : Index → Index}
    (hframe : ∀ x parsed, f { x with parsed } = { f x with parsed })
    (hclasses : ∀ x, (f x).classes = Value.putAll x.classes entries) : Notes (change f) entries :=
  ⟨fun _ => rfl, hframe, hclasses⟩

theorem Notes.effect_seq (h : Notes m entries) (m' : Read Unit) (x : Index) :
    effect (do m; m') x = effect m' (effect m x) := by
  rw [effect, Attempt.start_bind_ok (h.run _)]
  rfl

theorem Notes.seq (h : Notes m entries) (h' : Notes m' entries') :
    Notes (do m; m') (entries ++ entries') where
  run r := by rw [Attempt.start_bind_ok (h.run r), h'.run, h.effect_seq]
  frame x parsed := by rw [h.effect_seq, h.effect_seq, h.frame, h'.frame]
  classes x := by rw [h.effect_seq, h'.classes, h.classes, Value.putAll_append]

theorem Notes.forM {α : Type} {f : α → Read Unit} {entriesOf : α → List (String × Node)} :
    ∀ {items : List α}, (∀ a ∈ items, Notes (f a) (entriesOf a)) →
      Notes (items.forM f) (items.flatMap entriesOf)
  | [], _ => .done
  | a :: _, h => (h a List.mem_cons_self).seq (.forM fun b hb => h b (List.mem_cons_of_mem _ hb))

theorem Notes.forM_nil {α : Type} {f : α → Read Unit} {items : List α}
    (h : ∀ a ∈ items, Notes (f a) []) : Notes (items.forM f) [] := by
  have hall := Notes.forM h
  rwa [List.flatMap_eq_nil_iff.mpr fun _ _ => rfl] at hall

/-! ## One element -/

/-- A class or an interface that has a type name. -/
def IsTypedClass (n : Node) : Prop := isClass n = true ∧ (n.ownAttribute? (c "type")).isSome = true

instance (n : Node) : Decidable (IsTypedClass n) := inferInstanceAs (Decidable (_ ∧ _))

/-- The entries that an element makes in the classes: itself under its dotted name, if it is a class with a
type name. -/
def classEntries (n : Node) : List (String × Node) :=
  match nameParts n with
  | .ok parts => if IsTypedClass n then [(".".intercalate parts, n)] else []
  | .error _ => []

theorem mem_classEntries {n : Node} {e : String × Node} :
    e ∈ classEntries n ↔
      IsTypedClass n ∧ ∃ parts, nameParts n = .ok parts ∧ e = (".".intercalate parts, n) := by
  unfold classEntries
  split
  · next parts hparts => by_cases h : IsTypedClass n <;> simp [h, hparts]
  · next hparts => simp [hparts]

/-- Noting an element under the name of a symbol leaves the classes alone. -/
theorem notes_putNode (name : String) (n : Node) : Notes (change (·.putNode name n)) [] :=
  .change (fun _ _ => rfl) (fun _ => rfl)

theorem notes_macroNames (f : List String → List String) :
    Notes (change fun x => { x with macroNames := f x.macroNames }) [] :=
  .change (fun _ _ => rfl) (fun _ => rfl)

theorem notes_readIdentified (n : Node) : Notes (readIdentified n) [] := by
  unfold readIdentified
  split
  · exact notes_putNode _ n
  · exact .done

theorem notes_readClass {lead name own : String} {n : Node} {parts : List String}
    (htype : (n.attribute? (c "type")).isSome) (hparts : nameParts n = .ok parts)
    (hown : n.attribute? (c "symbol-prefix") = some own) :
    Notes (readClass lead name n htype) [(".".intercalate parts, n)] := by
  simp only [readClass, hparts, required, hown, Attempt.ofExcept, Attempt.need, pure_bind]
  rw [← List.append_nil [(".".intercalate parts, n)]]
  exact .seq (.change (fun _ _ => rfl) (fun _ => rfl))
    (notes_macroNames ((classMacros lead own).foldl insertNew))

theorem nameParts_of_isSome {n : Node} (h : (n.attribute? "name").isSome) :
    ∃ parts, nameParts n = .ok parts := by
  obtain ⟨name, hname⟩ := Option.isSome_iff_exists.mp h
  exact ⟨outerNames n.ancestors ++ [name], by rw [nameParts, hname]⟩

theorem classEntries_of_not {n : Node} (h : ¬ IsTypedClass n) : classEntries n = [] := by
  unfold classEntries
  split
  · rw [if_neg h]
  · rfl

theorem notes_readTyped {lead : String} {n : Node}
    (h : IsTypedClass n → (n.attribute? "name").isSome ∧ (n.attribute? (c "symbol-prefix")).isSome) :
    Notes (readTyped lead n) (classEntries n) := by
  unfold readTyped
  split
  · next htag =>
    have hnot : ¬ IsTypedClass n := by
      rintro ⟨hclass, -⟩
      simp only [isClass, Bool.or_eq_true, decide_eq_true_eq] at hclass htag
      rcases htag with ht | ht <;> rcases hclass with hc | hc <;> exact absurd (ht.symm.trans hc) (by decide)
    rw [classEntries_of_not hnot]
    exact .done
  · split
    · next hnone =>
      rw [classEntries_of_not fun hn => by simp [IsTypedClass, hnone] at hn]
      exact .done
    · next name hname =>
      by_cases hclass : isClass n = true
      · have htyped : IsTypedClass n := ⟨hclass, by rw [hname]; rfl⟩
        obtain ⟨hn, hprefix⟩ := h htyped
        obtain ⟨parts, hparts⟩ := nameParts_of_isSome hn
        obtain ⟨own, hown⟩ := Option.isSome_iff_exists.mp hprefix
        rw [if_pos hclass, classEntries, hparts]
        simp only [if_pos htyped]
        exact (notes_putNode name n).seq (notes_readClass _ hparts hown)
      · rw [if_neg hclass, classEntries_of_not fun hn => hclass hn.1]
        exact (notes_putNode name n).seq .done

theorem notes_readMember {tag mark : String} {n : Node}
    (h : n.tag = tag → (n.attribute? "name").isSome) : Notes (readMember tag mark n) [] := by
  unfold readMember
  split
  · exact .done
  · next htag =>
    obtain ⟨name, hname⟩ := Option.isSome_iff_exists.mp (h (not_not.mp htag))
    simp only [required, hname, Attempt.need, pure_bind]
    exact notes_putNode _ n

/-! ## One file -/

/-- What a file has to have: one namespace with the leads of its symbols, names on all that is kept by
name, and a name and a version on each include. -/
@[mk_iff]
structure WellFormed (root : Element) : Prop where
  unnamed : root.attribute? "name" = none
  hasSpace : ∃ space ∈ (⟨root, []⟩ : Node).child? (core "namespace"),
    (space.attribute? (c "identifier-prefixes")).isSome ∧
      (space.attribute? (c "symbol-prefixes")).isSome
  spaceNamed : ∀ space ∈ root.childrenOf (core "namespace"), (space.attribute? "name").isSome
  classNamed : ∀ n ∈ (⟨root, []⟩ : Node).descendants, IsTypedClass n →
    (n.attribute? "name").isSome ∧ (n.attribute? (c "symbol-prefix")).isSome
  memberNamed : ∀ n ∈ (⟨root, []⟩ : Node).descendants,
    n.tag ∈ [core "property", glib "signal", core "virtual-method"] → (n.attribute? "name").isSome
  includeNamed : ∀ e ∈ root.childrenOf (core "include"),
    (e.attribute? "name").isSome ∧ (e.attribute? "version").isSome

instance (root : Element) : Decidable (WellFormed root) := decidable_of_iff' _ (wellFormed_iff root)

/-- The entries that a file makes in the classes. -/
def fileEntries (root : Element) : List (String × Node) :=
  (⟨root, []⟩ : Node).descendants.flatMap classEntries

/-- **Reading the elements of a well-formed file succeeds and adds its classes.** -/
theorem WellFormed.notes {root : Element} (h : WellFormed root) :
    Notes (readElements ⟨root, []⟩) (fileEntries root) := by
  obtain ⟨space, hspace, hid, hlead⟩ := h.hasSpace
  obtain ⟨id, hid⟩ := Option.isSome_iff_exists.mp hid
  obtain ⟨lead, hlead⟩ := Option.isSome_iff_exists.mp hlead
  have hmember (tag mark : String) (htag : tag ∈ [core "property", glib "signal", core "virtual-method"]) :
      Notes ((⟨root, []⟩ : Node).descendants.forM (readMember tag mark)) [] :=
    .forM_nil fun n hn => notes_readMember fun ht => h.memberNamed n hn (ht ▸ htag)
  have hidentified : Notes ((⟨root, []⟩ : Node).descendants.forM readIdentified) [] :=
    .forM_nil fun n _ => notes_readIdentified n
  have htyped := Notes.forM (f := readTyped lead) fun n hn => notes_readTyped (h.classNamed n hn)
  simp only [readElements, Option.mem_def.mp hspace, required, hid, hlead, Attempt.need, pure_bind]
  rw [fileEntries, ← List.append_nil (List.flatMap _ _)]
  exact hidentified.seq (htyped.seq ((hmember _ _ (by simp)).seq
    ((hmember _ _ (by simp)).seq (hmember _ _ (by simp)))))

theorem mem_fileEntries {root : Element} {e : String × Node} :
    e ∈ fileEntries root ↔ ∃ n ∈ (⟨root, []⟩ : Node).descendants, IsTypedClass n ∧
      ∃ parts, nameParts n = .ok parts ∧ e = (".".intercalate parts, n) := by
  simp only [fileEntries, List.mem_flatMap, mem_classEntries]

/-! ## Classes that stand directly in a namespace -/

/-- A class with a type name that stands directly in a namespace of a file, under the name of the namespace
and its own. -/
def InNamespace (root : Element) (key : String) (n : Node) : Prop :=
  ∃ space ∈ root.childrenOf (core "namespace"), ∃ e ∈ space.children, n = ⟨e, [space, root]⟩ ∧
    IsTypedClass n ∧ ∃ s name, space.attribute? "name" = some s ∧ e.attribute? "name" = some name ∧
      key = s ++ "." ++ name

/-- An element stands directly in a namespace, and that in the root of a file. -/
def IsTopLevel (n : Node) : Prop :=
  ∃ space root, n.ancestors = [space, root] ∧ space.tag = core "namespace"

instance (n : Node) : Decidable (IsTopLevel n) :=
  match h : n.ancestors with
  | [space, root] => decidable_of_iff (space.tag = core "namespace") (by simp [IsTopLevel, h])
  | [] => isFalse (by simp [IsTopLevel, h])
  | [_] => isFalse (by simp [IsTopLevel, h])
  | _ :: _ :: _ :: _ => isFalse (by simp [IsTopLevel, h])

/-- **The entries of the elements that stand directly in a namespace.** -/
theorem WellFormed.inNamespace_iff {root : Element} (h : WellFormed root) {key : String} {n : Node} :
    InNamespace root key n ↔ (key, n) ∈ fileEntries root ∧ IsTopLevel n := by
  have hparts {space e : Element} {s name : String} (hs : space.attribute? "name" = some s)
      (hname : e.attribute? "name" = some name) :
      nameParts ⟨e, [space, root]⟩ = .ok [s, name] := by
    simp [nameParts, Node.attribute?, hname, outerNames, hs, h.unnamed]
  rw [mem_fileEntries]
  constructor
  · rintro ⟨space, hspace, e, he, rfl, htyped, s, name, hs, hname, rfl⟩
    obtain ⟨hmem, htag⟩ := List.mem_filter.mp hspace
    refine ⟨⟨_, mem_descendants_two.mpr ⟨rfl, hmem, he⟩, htyped, _, hparts hs hname, ?_⟩,
      space, root, rfl, eq_of_beq htag⟩
    rfl
  · rintro ⟨⟨⟨e, _⟩, hn, htyped, parts, hp, heq⟩, space, outer, hancestors, htag⟩
    obtain ⟨rfl, rfl⟩ := Prod.mk.inj heq
    simp only at hancestors
    subst hancestors
    obtain ⟨rfl, hmem, he⟩ := mem_descendants_two.mp hn
    have hspace : space ∈ outer.childrenOf (core "namespace") :=
      List.mem_filter.mpr ⟨hmem, beq_iff_eq.mpr htag⟩
    obtain ⟨s, hs⟩ := Option.isSome_iff_exists.mp (h.spaceNamed space hspace)
    obtain ⟨name, hname⟩ := Option.isSome_iff_exists.mp (h.classNamed _ hn htyped).1
    refine ⟨space, hspace, e, he, rfl, htyped, s, name, hs, hname, ?_⟩
    rw [hparts hs hname] at hp
    cases hp
    rfl

end GirDoc.Gir
