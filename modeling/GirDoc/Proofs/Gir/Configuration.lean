import GirDoc.Gir.Configure
import GirDoc.Proofs.Gir.Hierarchy
import GirDoc.Proofs.Gir.Members

/-!
# How configuring ends

Reading well-formed files ends normally, and includes that are not found are only reported. After that the ancestors
of each class are found, and there the parent of a class has to be known.

* A way up through parents that are there (`Climb`) comes to a class without a parent (`Lineage`), or to one whose
  parent is not there (`Dangles`), or it goes on without end (`Endless`).
* A way up that ends is no longer than there are classes (`Climb.length_le`). One without an end is too long however
  long it may get (`start_ancestors_endless`).
* So configuring ends normally exactly if all parents are there and no class is its own ancestor. Else the first class
  of which that cannot be said decides how it ends (`configure_ends_iff`).
-/

namespace GirDoc.Gir

open Session Xml

/-! ## Going up -/

/-- The way up from a class leads to one that names a parent that is not there. -/
def Dangles (x : Index) (n : Node) : Prop :=
  ∃ chain top, Climb x n chain top ∧ ¬ IsRootClass top ∧ ¬ HasParent x top

/-- Every class on the way up has a parent that is there. -/
def Endless (x : Index) (n : Node) : Prop := ∀ chain top, Climb x n chain top → HasParent x top

variable {x y : Index} {n p top top' : Node} {key : String} {chain chain' : List (String × Node)}

/-- **The way up ends at a root or at a class whose parent is not there, or it does not end.** -/
theorem lineage_or_dangles_or_endless (x : Index) (n : Node) :
    (∃ chain, Lineage x n chain) ∨ Dangles x n ∨ Endless x n := by
  by_cases hend : Endless x n
  · exact .inr (.inr hend)
  · simp only [Endless, not_forall] at hend
    obtain ⟨chain, top, hclimb, hstuck⟩ := hend
    by_cases hroot : IsRootClass top
    · exact .inl ⟨chain, lineage_iff_climb.mpr ⟨top, hclimb, hroot⟩⟩
    · exact .inr (.inl ⟨chain, top, hclimb, hroot, hstuck⟩)

theorem Climb.mem_classes (h : Climb x n chain top) {k : String} (hn : (k, n) ∈ x.classes) :
    ∃ k', (k', top) ∈ x.classes := by
  induction h generalizing k with
  | here => exact ⟨k, hn⟩
  | up _ hc _ ih => exact ih (Value.mem_of_lookup hc)

/-! ## Circles -/

theorem Endless.up (h : Endless x n) : ∃ key p, ResolvesTo n key ∧ x.class? key = some p ∧ Endless x p := by
  obtain ⟨key, p, hp, hc⟩ := h [] n (.here n)
  exact ⟨key, p, hp, hc, fun chain top hclimb => h _ top (.up hp hc hclimb)⟩

theorem Endless.exists_climb (h : Endless x n) (length : Nat) :
    ∃ chain top, Climb x n chain top ∧ chain.length = length := by
  induction length generalizing n with
  | zero => exact ⟨[], n, .here n, rfl⟩
  | succ length ih =>
    obtain ⟨key, p, hp, hc, hrest⟩ := h.up
    obtain ⟨chain, top, hclimb, hlength⟩ := ih hrest
    exact ⟨(key, p) :: chain, top, .up hp hc hclimb, by rw [List.length_cons, hlength]⟩

theorem Climb.transGen_of_mem {k k' : String} (h : Climb x n chain top) (hk : x.class? k = some n)
    (hk' : k' ∈ chain.map Prod.fst) : Relation.TransGen (Extends x) k k' := by
  induction h generalizing k with
  | here => cases hk'
  | up hp hc _ ih =>
    have hstep : Extends x k _ := ⟨_, hk, hp⟩
    rcases List.mem_cons.mp hk' with rfl | hmem
    · exact .single hstep
    · exact (ih hc hmem).head hstep

theorem Climb.nodup_of_isAcyclic (hacyclic : IsAcyclic x) (h : Climb x n chain top) :
    (chain.map Prod.fst).Nodup := by
  induction h with
  | here => exact List.nodup_nil
  | up hp hc rest ih =>
    rw [List.map_cons, List.nodup_cons]
    exact ⟨fun hmem => hacyclic _ (rest.transGen_of_mem hc hmem), ih⟩

/-- **A way up without an end goes round in a circle.** -/
theorem Endless.not_isAcyclic (h : Endless x n) : ¬ IsAcyclic x := by
  intro hacyclic
  -- it is as long as one likes, and there are only so many classes
  obtain ⟨chain, top, hclimb, hlength⟩ := h.exists_climb (x.classes.length + 1)
  have hle := hclimb.length_le_of_nodup (hclimb.nodup_of_isAcyclic hacyclic)
  omega

/-- Where each class has its parent among the others, there is no end. -/
theorem endless_of_closed (among : Node → Prop) (hn : among n)
    (hclosed : ∀ m, among m → ∃ key p, ResolvesTo m key ∧ x.class? key = some p ∧ among p) : Endless x n := by
  intro chain top hclimb
  induction hclimb with
  | here n =>
    obtain ⟨key, p, hp, hc, -⟩ := hclosed n hn
    exact ⟨key, p, hp, hc⟩
  | up hp hc _ ih =>
    obtain ⟨key, p, hp', hc', hamong⟩ := hclosed _ hn
    obtain rfl := hp.unique hp'
    obtain rfl := Option.some.inj (hc.symm.trans hc')
    exact ih hamong

/-! ## Lineages -/

/-- All that is above a class is in its lineage. -/
theorem Lineage.mem_of_transGen {a b : String} (hab : Relation.TransGen (Extends x) a b) (ha : x.class? a = some n)
    (h : Lineage x n chain) : b ∈ chain.map Prod.fst := by
  induction hab using Relation.TransGen.head_induction_on generalizing n chain with
  | single hab =>
    obtain ⟨n', hn', hp⟩ := hab
    obtain rfl := Option.some.inj (ha.symm.trans hn')
    cases h with
    | root hroot => exact absurd hp hroot.not_resolvesTo
    | step hp' hc rest =>
      obtain rfl := hp.unique hp'
      exact List.mem_cons_self
  | head ham _ ih =>
    obtain ⟨n', hn', hp⟩ := ham
    obtain rfl := Option.some.inj (ha.symm.trans hn')
    cases h with
    | root hroot => exact absurd hp hroot.not_resolvesTo
    | step hp' hc rest =>
      obtain rfl := hp.unique hp'
      exact List.mem_cons_of_mem _ (ih hc rest)

/-- **All classes have their lineages exactly if all parents are there and no class is its own ancestor.** -/
theorem forall_lineage_iff : (∀ k n, (k, n) ∈ x.classes → ∃ chain, Lineage x n chain) ↔
    ParentsResolve x ∧ IsAcyclic x := by
  constructor
  · intro hall
    refine ⟨fun k n hn => ?_, fun k hk => ?_⟩
    · obtain ⟨chain, hchain⟩ := hall k n hn
      cases hchain with
      | root hroot => exact .inl hroot
      | step hp hc _ => exact .inr ⟨_, _, hp, hc⟩
    · -- a class above itself would be met again on its way up
      obtain ⟨m, ⟨n, hn, -⟩, -⟩ := Relation.TransGen.head'_iff.mp hk
      obtain ⟨chain, hchain⟩ := hall k n (Value.mem_of_lookup hn)
      obtain ⟨top, hclimb, hroot⟩ := lineage_iff_climb.mp hchain
      exact hclimb.not_mem hroot.not_hasParent hn (hchain.mem_of_transGen hk hn)
  · rintro ⟨hresolve, hacyclic⟩ k n hn
    exact exists_lineage hresolve hacyclic (Value.lookup_of_mem x.nodup_classes hn)

/-! ## Finding ancestors -/

/-- The parent that a class names is looked for. -/
theorem start_ancestors_named (hp : ResolvesTo n key) (fuel : Nat) (y : Index) :
    (ancestors (fuel + 1) n).start y = (do
      let parent ← Attempt.need .missingKey (y.class? key)
      modify fun x => addChild x key (typeName? n)
      return typeName? parent :: (← ancestors fuel parent)).start y := by
  rw [ancestors, Attempt.start_bind_ok (Attempt.start_ofExcept _ _ |>.trans
    (by rw [parentKey_eq_some_iff.mpr hp]))]
  exact Attempt.start_bind_ok (Attempt.start_get y)

/-- One step up. -/
theorem start_ancestors_up (hp : ResolvesTo n key) (hc : y.class? key = some p) (fuel : Nat) :
    (ancestors (fuel + 1) n).start y =
      (ancestors fuel p >>= fun rest => pure (typeName? p :: rest)).start (addChild y key (typeName? n)) := by
  rw [start_ancestors_named hp, hc, Attempt.start_bind_ok (Attempt.start_need_some _ _ _),
    Attempt.start_bind_ok (Attempt.start_modify _ _)]

/-- The parent of a class that stands in another element is looked for. -/
theorem parentKey_error {e : Fault} (hinside : n.parent?.isSome) (h : parentKey n = .error e) : e = .missingKey := by
  obtain ⟨space, hspace⟩ := Option.isSome_iff_exists.mp hinside
  simp only [parentKey, hspace] at h
  split at h
  · cases h
  · split at h
    · cases h
    · split at h
      · cases h
      · split at h
        · cases h
          rfl
        · cases h

/-- There is no step up from a class whose parent is not there. -/
theorem start_ancestors_stuck (hinside : n.parent?.isSome) (hroot : ¬ IsRootClass n) (hstuck : ¬ HasParent x n)
    (hy : y.classes = x.classes) (fuel : Nat) : (ancestors (fuel + 1) n).start y = (.error .missingKey, y) := by
  cases hkey : parentKey n with
  | error e =>
    rw [ancestors, hkey, parentKey_error hinside hkey]
    rfl
  | ok named =>
    cases named with
    | none => exact absurd (parentKey_eq_none_iff.mp hkey) hroot
    | some key =>
      have hp : ResolvesTo n key := parentKey_eq_some_iff.mp hkey
      have hnone : y.class? key = none := by
        rw [Option.eq_none_iff_forall_ne_some]
        intro p hc
        exact hstuck ⟨key, p, hp, by rw [← hc, Index.class?, ← hy, Index.class?]⟩
      rw [start_ancestors_named hp, hnone]
      rfl

/-- **Going up to a class whose parent is not there fails.** -/
theorem start_ancestors_dangling (h : Climb x n chain top) (hinside : top.parent?.isSome) (hroot : ¬ IsRootClass top)
    (hstuck : ¬ HasParent x top) {fuel : Nat} (hfuel : chain.length < fuel) (hy : y.classes = x.classes) :
    ∃ z, (ancestors fuel n).start y = (.error .missingKey, z) := by
  induction h generalizing fuel y with
  | here n =>
    obtain ⟨fuel, rfl⟩ := Nat.exists_eq_add_of_lt hfuel
    exact ⟨y, start_ancestors_stuck hinside hroot hstuck hy _⟩
  | @up n p top key chain hp hc rest ih =>
    obtain ⟨fuel, rfl⟩ : ∃ k, fuel = k + 1 := ⟨fuel - 1, by simp at hfuel; omega⟩
    have hclass : y.class? key = some p := by rw [← hc, Index.class?, hy, Index.class?]
    obtain ⟨z, hz⟩ := ih hinside hroot hstuck (y := addChild y key (typeName? n))
      (show chain.length < fuel by simpa using hfuel) hy
    exact ⟨z, (start_ancestors_up hp hclass fuel).trans (Attempt.start_bind_error hz)⟩

/-- **A way up without an end is too long, however long it may get.** -/
theorem start_ancestors_endless (h : Endless x n) (hy : y.classes = x.classes) (fuel : Nat) :
    ∃ z, (ancestors fuel n).start y = (.error .tooDeep, z) := by
  induction fuel generalizing n y with
  | zero => exact ⟨y, rfl⟩
  | succ fuel ih =>
    obtain ⟨key, p, hp, hc, hrest⟩ := h.up
    have hclass : y.class? key = some p := by rw [← hc, Index.class?, hy, Index.class?]
    obtain ⟨z, hz⟩ := ih hrest (y := addChild y key (typeName? n)) hy
    exact ⟨z, (start_ancestors_up hp hclass fuel).trans (Attempt.start_bind_error hz)⟩

/-! ## All classes -/

/-- The first class without a lineage is one of which `P` holds. -/
def FirstWithout (x : Index) (P : Node → Prop) : Prop :=
  ∃ before k n after, x.classes = before ++ (k, n) :: after ∧ (∀ e ∈ before, ∃ chain, Lineage x e.2 chain) ∧ P n

theorem forall_lineage_or_firstWithout (x : Index) :
    (∀ k n, (k, n) ∈ x.classes → ∃ chain, Lineage x n chain) ∨
      FirstWithout x (Dangles x) ∨ FirstWithout x (Endless x) := by
  classical
  cases hfirst : x.classes.find? fun e => ¬ ∃ chain, Lineage x e.2 chain with
  | none =>
    refine .inl fun k n hn => ?_
    simpa using List.find?_eq_none.mp hfirst (k, n) hn
  | some e =>
    obtain ⟨hwithout, before, after, heq, hbefore⟩ := List.find?_eq_some_iff_append.mp hfirst
    have hbefore : ∀ a ∈ before, ∃ chain, Lineage x a.2 chain := fun a ha => by simpa using hbefore a ha
    rcases lineage_or_dangles_or_endless x e.2 with hchain | hdangles | hendless
    · exact absurd hchain (of_decide_eq_true hwithout)
    · exact .inr (.inl ⟨before, e.1, e.2, after, heq, hbefore, hdangles⟩)
    · exact .inr (.inr ⟨before, e.1, e.2, after, heq, hbefore, hendless⟩)

/-- Going through classes that have lineages. -/
theorem start_forM_lineages : ∀ (todo : List (String × Node)) (y : Index),
    (∀ e ∈ todo, ∃ chain, Lineage x e.2 chain) → y.classes = x.classes →
    ∃ z, (todo.forM (noteClass (x.classes.length + 1))).start y = (.ok (), z) ∧ z.classes = x.classes
  | [], y, _, hy => ⟨y, rfl, hy⟩
  | (k, n) :: rest, y, htodo, hy => by
    obtain ⟨chain, hchain⟩ := htodo (k, n) List.mem_cons_self
    have hup := start_ancestors hchain (Nat.lt_succ_of_le hchain.length_le) hy
    obtain ⟨z, hz, hclasses⟩ := start_forM_lineages rest
      { addEdges y (edgesOf n chain) with
        hierarchies := Value.put (addEdges y (edgesOf n chain)).hierarchies k
          (chain.map fun e => typeName? e.2).reverse }
      (fun e he => htodo e (List.mem_cons_of_mem _ he)) (by rw [← hy, addEdges_eq])
    refine ⟨z, ?_, hclasses⟩
    rw [Attempt.start_forM_cons_ok (by rw [noteClass, Attempt.start_bind_ok hup, Attempt.start_modify]), hz]

/-- What stops at the first class without a lineage stops all. -/
theorem FirstWithout.createHierarchies_fails {P : Node → Prop} {e : Fault} (h : FirstWithout x P)
    (hfails : ∀ k n y, (k, n) ∈ x.classes → P n → y.classes = x.classes →
      ∃ z, (ancestors (x.classes.length + 1) n).start y = (.error e, z)) :
    (createHierarchies.start x).1 = .error e := by
  obtain ⟨before, k, n, after, heq, hbefore, hn⟩ := h
  obtain ⟨y, hy, hclasses⟩ := start_forM_lineages before x hbefore rfl
  obtain ⟨z, hz⟩ := hfails k n y (by rw [heq]; simp) hn hclasses
  have hnote : (noteClass (x.classes.length + 1) (k, n)).start y = (.error e, z) := Attempt.start_bind_error hz
  have hrest : (((k, n) :: after).forM (noteClass (x.classes.length + 1))).start y = (.error e, z) :=
    Attempt.start_bind_error hnote
  have hall : (x.classes.forM (noteClass (x.classes.length + 1))).start x = (.error e, z) := by
    have hsplit (f : String × Node → Attempt Index Unit) :
        x.classes.forM f = before.forM f >>= fun _ => ((k, n) :: after).forM f := by
      rw [heq]
      exact List.forM_append
    rw [hsplit, Attempt.start_bind_ok hy, hrest]
  rw [createHierarchies_eq, hall]

/-- **How finding the hierarchies ends.** -/
theorem createHierarchies_result (hinside : ∀ k n, (k, n) ∈ x.classes → n.parent?.isSome) :
    ((createHierarchies.start x).1 = .ok () ↔ ParentsResolve x ∧ IsAcyclic x) ∧
    ((createHierarchies.start x).1 = .error .missingKey ↔ FirstWithout x (Dangles x)) ∧
    ((createHierarchies.start x).1 = .error .tooDeep ↔ FirstWithout x (Endless x)) := by
  have hok (h : ∀ k n, (k, n) ∈ x.classes → ∃ chain, Lineage x n chain) : (createHierarchies.start x).1 = .ok () := by
    obtain ⟨z, hz, -⟩ := start_forM_lineages x.classes x (fun e => h e.1 e.2) rfl
    rw [createHierarchies_eq, hz]
  have hmissing (h : FirstWithout x (Dangles x)) : (createHierarchies.start x).1 = .error .missingKey := by
    refine h.createHierarchies_fails fun k n y hn hdangles hy => ?_
    obtain ⟨chain, top, hclimb, hroot, hstuck⟩ := hdangles
    obtain ⟨k', htop⟩ := hclimb.mem_classes hn
    have hfuel : chain.length < x.classes.length + 1 := Nat.lt_succ_of_le (hclimb.length_le hstuck)
    exact start_ancestors_dangling hclimb (hinside k' top htop) hroot hstuck hfuel hy
  have hdeep (h : FirstWithout x (Endless x)) : (createHierarchies.start x).1 = .error .tooDeep :=
    h.createHierarchies_fails fun k n y _ hendless hy => start_ancestors_endless hendless hy _
  rw [← forall_lineage_iff]
  refine ⟨⟨fun h => ?_, hok⟩, ⟨fun h => ?_, hmissing⟩, fun h => ?_, hdeep⟩
  all_goals rcases forall_lineage_or_firstWithout x with hall | hdangles | hendless
  · exact hall
  · rw [hmissing hdangles] at h; cases h
  · rw [hdeep hendless] at h; cases h
  · rw [hok hall] at h; cases h
  · exact hdangles
  · rw [hdeep hendless] at h; cases h
  · rw [hok hall] at h; cases h
  · rw [hmissing hdangles] at h; cases h
  · exact hendless

/-! ## Reading -/

/-- **The sources of a collection can be read, and the classes found stand in other elements.** -/
theorem run_readSources_inside {l : Sources} {girs : List String} (hgirs : Collection l girs) :
    ∃ r, (readSources l).run { index := .empty } = some (.ok (), r) ∧
      ∀ k n, (k, n) ∈ r.index.classes → n.parent?.isSome := by
  obtain ⟨files, opened, r, hrun, hvisited, -⟩ := run_sources hgirs l.listed { index := .empty } hgirs.listed
  refine ⟨r, hrun, fun k n hn => ?_⟩
  rw [hvisited.index] at hn
  change (k, n) ∈ (effect (readAll l files) .empty).classes at hn
  rw [(hgirs.notes_readAll hvisited.files_subset).classes] at hn
  rcases Value.mem_of_mem_putAll hn with hn | hn
  · cases hn
  obtain ⟨p, -, hentry⟩ := List.mem_flatMap.mp hn
  obtain ⟨root, -, hentry⟩ := mem_documentEntries.mp hentry
  obtain ⟨n', hbelow, -, _, -, heq⟩ := mem_fileEntries.mp hentry
  obtain ⟨-, rfl⟩ := Prod.mk.inj heq
  have hroot := suffix_ancestors hbelow
  rw [Node.parent?]
  split
  · next hnone =>
    rw [hnone] at hroot
    simp at hroot
  · rfl

/-- What is reported of an included file that is not found. -/
def missingInclude (file : String) : LogEntry :=
  .warn "missing-gir-include" ("Couldn't find a gir for " ++ file)

theorem start_forM_warn (files : List String) (s : Session) :
    (files.forM fun file => warn "missing-gir-include" ("Couldn't find a gir for " ++ file)).start s =
      (.ok (), { s with log := s.log ++ files.map missingInclude }) := by
  induction files generalizing s with
  | nil => simp
  | cons file rest ih =>
    have hfirst : (warn "missing-gir-include" ("Couldn't find a gir for " ++ file)).start s =
        (.ok (), { s with log := s.log ++ [missingInclude file] }) := rfl
    refine (Attempt.start_bind_ok hfirst).trans ((ih _).trans ?_)
    rw [List.append_assoc]
    rfl

theorem start_readProject {s : Session} {r : Reading} (hempty : s.index = .empty)
    (hrun : (readSources (sourcesOf s.environment)).run { index := .empty } = some (.ok (), r)) :
    readProject.start s =
      (.ok (), { s with index := r.index, log := s.log ++ r.missing.map missingInclude }) := by
  rw [readProject, Attempt.start_bind_ok (Attempt.start_get s)]
  simp only [hempty, hrun]
  rw [Attempt.start_bind_ok (Attempt.start_set _ _), Attempt.start_bind_ok (start_forM_warn _ _)]
  rfl

/-- What configuring does when the languages are known: the sources are read and the hierarchies found. -/
def readAndOrder (languages : List String) : Doc (List String) := do
  readProject
  Attempt.onPart Session.index (fun index s => { s with index }) createHierarchies
  return languages

theorem start_readAndOrder {s : Session} {r : Reading} (languages : List String) (hempty : s.index = .empty)
    (hrun : (readSources (sourcesOf s.environment)).run { index := .empty } = some (.ok (), r)) :
    (readAndOrder languages).start s = ((createHierarchies.start r.index).1.map (fun _ => languages),
      { s with index := (createHierarchies.start r.index).2, log := s.log ++ r.missing.map missingInclude }) := by
  rw [readAndOrder, Attempt.start_bind_ok (start_readProject hempty hrun), Attempt.start_bind,
    Attempt.start_onPart]
  rcases createHierarchies.start r.index with ⟨_ | _, x⟩ <;> rfl

theorem start_given (s : Session) : given.start s = (.ok s.environment, s) := rfl

/-- **Configuring ends as finding the hierarchies does.** -/
theorem start_configure {s : Session} {r : Reading} {config : List (String × Value)} {asked : List String}
    (hasked : askedLanguages config = .ok asked) (hempty : s.index = .empty)
    (hrun : (readSources (sourcesOf s.environment)).run { index := .empty } = some (.ok (), r)) :
    ((configure config).start s).1 = (createHierarchies.start r.index).1.map (fun _ => chosenLanguages asked) ∧
      ((configure config).start s).2.log = s.log ++ r.missing.map missingInclude := by
  have hconfigure : ∃ t : Session, t.index = .empty ∧ t.environment = s.environment ∧ t.log = s.log ∧
      (configure config).start s = (readAndOrder (chosenLanguages asked)).start t := by
    rw [configure, Attempt.start_bind_ok (Attempt.start_ofExcept _ _ |>.trans (by rw [hasked])),
      Attempt.start_bind_ok (Attempt.start_modify _ _), Attempt.start_bind_ok (start_given _)]
    by_cases hsources : s.environment.girSources.isEmpty
    · exact ⟨{ s with languages := some (chosenLanguages asked) }, hempty, rfl, rfl, by simp only [hsources]; rfl⟩
    · exact ⟨{ s with languages := some (chosenLanguages asked), owner := .introspection }, hempty, rfl, rfl,
        by simp only [hsources]; rfl⟩
  obtain ⟨t, hindex, henvironment, hlog, heq⟩ := hconfigure
  rw [heq, start_readAndOrder _ hindex (by rw [henvironment]; exact hrun), ← hlog]
  exact ⟨rfl, rfl⟩

/-- **How configuring ends.** Well-formed files can be read, and included files that are not found are reported.
After that configuring ends normally exactly if every class that names a parent names one that is there and no class is
its own ancestor. Otherwise the first class without a lineage decides. If the way up from it leads to a parent that is
not there, a key is missing. If it goes round in a circle, no number of steps is enough. -/
theorem configure_ends_iff (s : Session) (config : List (String × Value)) (asked girs : List String)
    (hasked : askedLanguages config = .ok asked) (hempty : s.index = .empty)
    (hgirs : Collection (sourcesOf s.environment) girs) :
    ∃ r, (readSources (sourcesOf s.environment)).run { index := .empty } = some (.ok (), r) ∧
      ((configure config).start s).2.log = s.log ++ r.missing.map missingInclude ∧
      (((configure config).start s).1 = .ok (chosenLanguages asked) ↔ ParentsResolve r.index ∧ IsAcyclic r.index) ∧
      (((configure config).start s).1 = .error .missingKey ↔ FirstWithout r.index (Dangles r.index)) ∧
      (((configure config).start s).1 = .error .tooDeep ↔ FirstWithout r.index (Endless r.index)) ∧
      (∀ n, Endless r.index n →
        ¬ IsAcyclic r.index ∧ ∀ fuel, ((ancestors fuel n).start r.index).1 = .error .tooDeep) ∧
      ((ParentsResolve r.index ∧ IsAcyclic r.index) ∨ FirstWithout r.index (Dangles r.index) ∨
        FirstWithout r.index (Endless r.index)) := by
  obtain ⟨r, hrun, hinside⟩ := run_readSources_inside hgirs
  obtain ⟨hresult, hlog⟩ := start_configure hasked hempty hrun
  obtain ⟨hok, hmissing, hdeep⟩ := createHierarchies_result hinside
  refine ⟨r, hrun, hlog, ?_, ?_, ?_, fun n hn => ⟨hn.not_isAcyclic, fun fuel => ?_⟩, ?_⟩
  · rw [hresult, ← hok]
    cases (createHierarchies.start r.index).1 <;> simp [Except.map]
  · rw [hresult, ← hmissing]
    cases (createHierarchies.start r.index).1 <;> simp [Except.map]
  · rw [hresult, ← hdeep]
    cases (createHierarchies.start r.index).1 <;> simp [Except.map]
  · obtain ⟨z, hz⟩ := start_ancestors_endless hn rfl fuel
    rw [hz]
  · rw [← forall_lineage_iff]
    exact forall_lineage_or_firstWithout r.index

/-! ## A parent that is not there -/

/-- The name of the file that an include asks for. -/
def includeFile (e : Element) : String :=
  includedName ((e.attribute? "name").getD "") ((e.attribute? "version").getD "")

theorem run_followInclude_missing {l : Sources} {e : Element} (hname : (e.attribute? "name").isSome)
    (hversion : (e.attribute? "version").isSome) (hnone : ∀ q, ¬ NamesFile l e q) (r : Reading) :
    (followInclude l e).run r = some (.ok (), { r with missing := r.missing ++ [includeFile e] }) := by
  obtain ⟨name, hname⟩ := Option.isSome_iff_exists.mp hname
  obtain ⟨version, hversion⟩ := Option.isSome_iff_exists.mp hversion
  have hfind : l.find? (includedName name version) = none :=
    Option.eq_none_iff_forall_ne_some.mpr fun q hq => hnone q ⟨name, version, hname, hversion, hq⟩
  have hopen : (openInclude l e).start r = (.ok none, { r with missing := r.missing ++ [includeFile e] }) := by
    simp only [openInclude, includeFile, hname, hversion, Attempt.need, pure_bind, hfind]
    rfl
  rw [followInclude, Follow.run_ofRead_bind_ok hopen]
  rfl

theorem run_includes_missing {l : Sources} : ∀ (es : List Element) (r : Reading),
    (∀ e ∈ es, ((e.attribute? "name").isSome ∧ (e.attribute? "version").isSome) ∧ ∀ q, ¬ NamesFile l e q) →
    (es.forM (followInclude l)).run r = some (.ok (), { r with missing := r.missing ++ es.map includeFile })
  | [], r, _ => by simp only [List.map_nil, List.append_nil]; rfl
  | e :: rest, r, hes => by
    obtain ⟨⟨hname, hversion⟩, hnone⟩ := hes e List.mem_cons_self
    rw [Follow.run_forM_cons_ok (run_followInclude_missing hname hversion hnone r),
      run_includes_missing rest _ fun e he => hes e (List.mem_cons_of_mem _ he), List.append_assoc]
    rfl

/-- Reading one file of which no included file is found. -/
theorem reading_unfollowed {l : Sources} {p : String} {root : Element} (hlisted : l.listed = [p])
    (hroot : readDocument l.files p = .ok root) (hwell : WellFormed root) (hnone : targets l root = []) :
    Collection l [p] ∧ (readSources l).run { index := .empty } =
      some (.ok (), { index := indexOf root, missing := (root.childrenOf (core "include")).map includeFile }) := by
  have hunfound : ∀ e ∈ root.childrenOf (core "include"), ∀ q, ¬ NamesFile l e q := fun e he q hq => by
    simpa [hnone] using mem_targets.mpr ⟨e, he, hq⟩
  refine ⟨⟨hlisted ▸ List.Subset.refl _, fun p' hp' => ?_, fun p' hp' q hq => ?_⟩, ?_⟩
  · rw [List.mem_singleton.mp hp']
    exact ⟨root, hroot, hwell⟩
  · rw [List.mem_singleton.mp hp'] at hq
    obtain ⟨root', hroot', e, he, hq⟩ := hq
    cases hroot.symm.trans hroot'
    exact absurd hq (hunfound e he q)
  · have hfile : (l.readFile root).run { index := .empty } = some (.ok (),
        { index := indexOf root, missing := (root.childrenOf (core "include")).map includeFile }) := by
      rw [readFile_eq, Follow.run_ofRead_bind_ok (hwell.notes.run _),
        run_includes_missing _ _ fun e he => ⟨hwell.includeNamed e he, hunfound e he⟩]
      rfl
    rw [readSources, hlisted, Follow.run_forM_cons_ok]
    · rfl
    · rw [hroot]
      exact hfile

/-- Whether a document is well-formed, none of the files that it includes is found, and finding the hierarchies of
its classes comes to a parent that is not there. -/
def isOrphaned (l : Sources) (missing : List String) : Except Fault Element → Bool
  | .ok root => WellFormed root ∧ targets l root = [] ∧
      (root.childrenOf (core "include")).map includeFile = missing ∧
      (createHierarchies.start (indexOf root)).1 = .error .missingKey
  | .error _ => false

theorem configure_of_isOrphaned {s : Session} {p : String} {missing asked : List String}
    (config : List (String × Value)) (hlisted : s.environment.girSources = [p]) (hempty : s.index = .empty)
    (hasked : askedLanguages config = .ok asked)
    (h : isOrphaned (sourcesOf s.environment) missing (readDocument s.environment.files p) = true) :
    Collection (sourcesOf s.environment) [p] ∧ ((configure config).start s).1 = .error .missingKey ∧
      ((configure config).start s).2.log = s.log ++ missing.map missingInclude := by
  unfold isOrphaned at h
  split at h
  · next root hroot =>
    obtain ⟨hwell, hnone, rfl, hfails⟩ := of_decide_eq_true h
    obtain ⟨hgirs, hrun⟩ := reading_unfollowed (l := sourcesOf s.environment) hlisted hroot hwell hnone
    obtain ⟨hresult, hlog⟩ := start_configure hasked hempty hrun
    refine ⟨hgirs, ?_, hlog⟩
    rw [hresult, hfails]
    rfl
  · cases h

/-- A session with a class whose parent is in a file that is not there. -/
def orphan : Session where
  environment := { girSources := ["/N-1.gir"], files := { files := [("/N-1.gir", Text.Utf8.encode <|
    "<repository xmlns='http://www.gtk.org/introspection/core/1.0' " ++
      "xmlns:c='http://www.gtk.org/introspection/c/1.0'><include name='G' version='2'/>" ++
    "<namespace name='N' c:identifier-prefixes='N' c:symbol-prefixes='n'>" ++
    "<class name='F' c:type='NF' c:symbol-prefix='f' parent='G.O'/></namespace></repository>")] } }

theorem isOrphaned_orphan : isOrphaned (sourcesOf orphan.environment) ["G-2.gir"]
    (readDocument orphan.environment.files "/N-1.gir") = true := by
  decide +kernel

theorem configure_ends_orphan : Collection (sourcesOf orphan.environment) ["/N-1.gir"] ∧
    ∃ r, (readSources (sourcesOf orphan.environment)).run { index := .empty } = some (.ok (), r) ∧
      r.missing.map missingInclude = [missingInclude "G-2.gir"] ∧ FirstWithout r.index (Dangles r.index) ∧
      ¬ (ParentsResolve r.index ∧ IsAcyclic r.index) := by
  obtain ⟨hgirs, hresult, hlog⟩ := configure_of_isOrphaned [] rfl rfl rfl isOrphaned_orphan
  obtain ⟨r, hrun, hreported, hok, hmissing, -⟩ := configure_ends_iff orphan [] [] ["/N-1.gir"] rfl rfl hgirs
  refine ⟨hgirs, r, hrun, ?_, hmissing.mp hresult, fun hall => ?_⟩
  · exact (hreported.symm.trans hlog : [] ++ r.missing.map missingInclude = [] ++ [_])
  · cases (hok.mpr hall).symm.trans hresult

/-- Two classes, each the parent of the other. -/
def circle : Element :=
  .mk (core "repository") [] [.mk (core "namespace")
    [("name", "N"), (c "identifier-prefixes", "N"), (c "symbol-prefixes", "n")]
    [.mk (core "class") [("name", "A"), (c "type", "NA"), (c "symbol-prefix", "a"), ("parent", "B")] [],
      .mk (core "class") [("name", "B"), (c "type", "NB"), (c "symbol-prefix", "b"), ("parent", "A")] []]]

theorem parentKey_circle :
    ((indexOf circle).class? "N.A").map parentKey = some (.ok (some "N.B")) ∧
      ((indexOf circle).class? "N.B").map parentKey = some (.ok (some "N.A")) := by
  decide +kernel

/-- **Files that stop configuring.** A file that is not found is only reported, and yet a class of which the parent is
in that file stops configuring. Of two classes that are each other's parents no number of steps finds the
ancestors. -/
theorem unresolved_stops_configure :
    Collection (sourcesOf orphan.environment) ["/N-1.gir"] ∧
    ((configure []).start orphan).1 = .error .missingKey ∧
    ((configure []).start orphan).2.log = [missingInclude "G-2.gir"] ∧
    WellFormed circle ∧ (createHierarchies.start (indexOf circle)).1 = .error .tooDeep ∧
    ∃ n, (indexOf circle).class? "N.A" = some n ∧
      ∀ fuel, ((ancestors fuel n).start (indexOf circle)).1 = .error .tooDeep := by
  obtain ⟨hgirs, hresult, hlog⟩ := configure_of_isOrphaned [] rfl rfl rfl isOrphaned_orphan
  obtain ⟨a, ha, hab⟩ := Option.map_eq_some_iff.mp parentKey_circle.1
  obtain ⟨b, hb, hba⟩ := Option.map_eq_some_iff.mp parentKey_circle.2
  have hendless : Endless (indexOf circle) a := by
    refine endless_of_closed (fun m => m = a ∨ m = b) (.inl rfl) ?_
    rintro m (rfl | rfl)
    · exact ⟨"N.B", b, parentKey_eq_some_iff.mp hab, hb, .inr rfl⟩
    · exact ⟨"N.A", a, parentKey_eq_some_iff.mp hba, ha, .inl rfl⟩
  refine ⟨hgirs, hresult, hlog, by decide +kernel, by decide +kernel, a, ha, fun fuel => ?_⟩
  obtain ⟨z, hz⟩ := start_ancestors_endless hendless rfl fuel
  rw [hz]

end GirDoc.Gir
