import GirDoc.Proofs.C.Sight
import GirDoc.Proofs.Descent
import GirDoc.Proofs.Remaining

/-!
# When a walk through a syntax tree ends

A reference to a type leads to the definition of the type, so a walk can come back to a node that it is still
below. Such a node is passed over only if its name was found in the meantime. The name of a structure is found
before its fields are gone through, but unions, other names for types and structures that are left out have no
symbol to be found.

* A walk is a descent with a limit (`tells_walk`), and it is tame: what becomes of a node depends on what a
  walk can see alone, and that can grow only so often (`tame_enter`).
* So it ends unless it goes into a node again below itself with nothing found or left out in between, and
  `walkDepth` levels tell which of the two is the case (`ends_iff_walk`).
* A structure that is kept is found before the walk goes on below it (`NamesKept.found`), so a walk without end
  goes round past all of these (`ends_of_leadsPast`). Past unions it does (`walk_tooDeep_selfReferring`).
-/

namespace GirDoc.C

open Ast Session Descent Relation

variable {s s' t t' : Session} {u : SourceUnit} (owner : Owner) (plan : Plan)

/-! ## Going into one node -/

/-- A session after a symbol was found under a name. -/
def withFound (t : Session) (name : String) (id : SymbolId) : Session :=
  { t with scanner := { t.scanner with found := Value.put t.scanner.found name id } }

theorem mem_names_withFound {name name' : String} {id : SymbolId} :
    name' ∈ names (withFound t name id) ↔ name' ∈ names t ∨ name' = name :=
  Value.mem_keys_put

theorem start_noteFound {id : SymbolId} {name : String} (h : HasName t id name) :
    (noteFound (some id)).start t = (.ok (), withFound t name id) := by
  obtain ⟨x, hx, hname⟩ := h
  have hsymbol : (symbol id).start t = (.ok x, t) := by
    rw [symbol, Attempt.start_bind_ok (Attempt.start_get t), hx]
    rfl
  rw [noteFound, Attempt.start_bind_ok hsymbol, hname]
  rfl

theorem grows_withFound (u : SourceUnit) {name : String} (id : SymbolId) (h : name ∈ u.spellings) :
    Grows u t (withFound t name id) where
  setting := rfl
  found _ hmem := mem_names_withFound.mpr (Or.inl hmem)
  found_new name' hmem := by
    rcases mem_names_withFound.mp hmem with hold | rfl
    · exact Or.inl hold
    · exact Or.inr h
  leftOut := List.Subset.refl _
  leftOut_new _ := Or.inl

theorem Same.withFound {name : String} (h : Same t t') (id id' : SymbolId) :
    Same (withFound t name id) (withFound t' name id') :=
  ⟨h.setting, fun name' => mem_names_withFound.trans ((or_congr_left (h.found name')).trans
    mem_names_withFound.symm), h.leftOut⟩

theorem alike_noteDeclared (node : CursorRef) (sources : List String) :
    Alike u (do noteFound (← declared owner sources u node))
      (do noteFound (← declared owner sources u node)) Any := by
  intro s s' hs
  rcases alike_declared owner node sources hs with
    ⟨a, t, a', t', hm, hm', ht, hg, name, hname, hboth⟩ | ⟨e, t, t', hm, hm', ht, hg⟩
  · rw [Attempt.start_bind_ok hm, Attempt.start_bind_ok hm']
    rcases hboth with ⟨rfl, rfl⟩ | ⟨id, id', rfl, rfl, hid, hid'⟩
    · exact Or.inl ⟨(), t, (), t', rfl, rfl, ht, hg, trivial⟩
    · exact Or.inl ⟨(), _, (), _, start_noteFound hid, start_noteFound hid', ht.withFound id id',
        hg.trans (grows_withFound u id hname), trivial⟩
  · rw [Attempt.start_bind_error hm, Attempt.start_bind_error hm']
    exact Or.inr ⟨e, t, t', rfl, rfl, ht, hg⟩

/-- **What becomes of a node depends only on what a walk can see.** -/
theorem alike_enter (node : CursorRef) :
    Alike u (enter owner plan u node) (enter owner plan u node) Equal := by
  refine (alike_ofExcept _).then fun target => ?_
  cases target with
  | none => exact alike_pure fun _ _ => rfl
  | some node =>
    refine (alike_isFound _).then fun found => ?_
    cases found with
    | true => exact alike_pure fun _ _ => rfl
    | false =>
      have hrest : Alike u (do (do noteFound (← declared owner plan.sources u node)); return u.children node)
          (do (do noteFound (← declared owner plan.sources u node)); return u.children node) Equal :=
        (alike_noteDeclared owner node plan.sources).bind fun _ _ _ => alike_pure fun _ _ => rfl
      simp only [bind_assoc] at hrest
      exact hrest

/-- A node that leads on has a target whose name was not found before. What the target declares is noted, and
the walk goes on below it. -/
theorem start_enter_ok {node : CursorRef} {next : List CursorRef}
    (h : (enter owner plan u node).start s = (.ok next, t)) (hnext : next ≠ []) :
    ∃ target slot t₁, target? plan.files u node = .ok (some target) ∧
      (u.cursor target).spelling ∉ names s ∧ (declared owner plan.sources u target).start s = (.ok slot, t₁) ∧
      (noteFound slot).start t₁ = (.ok (), t) ∧ next = u.children target := by
  rw [enter, Attempt.start_bind, Attempt.start_ofExcept] at h
  rcases htarget : target? plan.files u node with e | _ | target
  · rw [htarget] at h
    cases h
  · rw [htarget] at h
    cases h
    exact absurd rfl hnext
  · rw [htarget] at h
    simp only [Attempt.start_bind_ok (start_isFound s _)] at h
    by_cases hfound : (u.cursor target).spelling ∈ names s
    · rw [if_pos (decide_eq_true hfound)] at h
      cases h
      exact absurd rfl hnext
    · rw [if_neg (by simpa using hfound)] at h
      obtain ⟨slot, t₁, hslot, h⟩ := Attempt.start_bind_eq_ok h
      obtain ⟨_, t₂, hnoted, h⟩ := Attempt.start_bind_eq_ok h
      cases h
      exact ⟨target, slot, t₁, rfl, hfound, hslot, hnoted, rfl⟩

/-- The nodes of a unit. -/
def nodesOf (u : SourceUnit) : List CursorRef := (List.range u.cursors.size).map .node

/-- What is no node of the unit has no definition, and nothing is below it. -/
theorem children_eq_nil {files : List String} {node target : CursorRef} (hnode : node ∉ nodesOf u)
    (h : target? files u node = .ok (some target)) : u.children target = [] := by
  have hempty : (u.cursor node).definition = .null ∧ (u.cursor node).children = [] := by
    cases node with
    | null => exact ⟨rfl, rfl⟩
    | noDecl => exact ⟨rfl, rfl⟩
    | node i =>
      have hi : u.cursors[i]? = none := by
        rw [Array.getElem?_eq_none_iff]
        by_contra hlt
        exact hnode (List.mem_map_of_mem (List.mem_range.mpr (not_le.mp hlt)))
      rw [SourceUnit.cursor, hi]
      exact ⟨rfl, rfl⟩
  rw [target?] at h
  rcases hkind : u.cursorKind node with e | kind
  · rw [hkind] at h
    cases h
  · rw [hkind] at h
    simp only [bind, Except.bind] at h
    split at h
    · rw [hempty.1] at h
      cases h
    · cases h
      rw [SourceUnit.children, hempty.2]
      rfl

/-- Only the nodes of the unit lead on. -/
theorem mem_nodesOf {node : CursorRef} {next : List CursorRef}
    (h : (enter owner plan u node).start s = (.ok next, t)) (hnext : next ≠ []) : node ∈ nodesOf u := by
  obtain ⟨target, -, -, htarget, -, -, -, hchildren⟩ := start_enter_ok owner plan h hnext
  by_contra hnode
  exact hnext (hchildren.trans (children_eq_nil hnode htarget))

/-! ## Walks are tame -/

/-- How many names can still be found or left out. -/
def rank (u : SourceUnit) (s : Session) : Nat :=
  remaining u.spellings (names s) + remaining s.index.superfluous s.leftOut

theorem Grows.rank_le (h : Grows u s t) : rank u t ≤ rank u s := by
  rw [rank, rank, h.index]
  exact Nat.add_le_add (remaining_le h.found) (remaining_le h.leftOut)

/-- As long as the rank stays what it is, a walk sees no difference. -/
theorem Grows.same_of_rank_eq (h : Grows u s t) (hrank : rank u t = rank u s) : Same s t := by
  rw [rank, rank, h.index] at hrank
  have hfound : remaining u.spellings (names t) ≤ _ := remaining_le h.found
  have hleft : remaining s.index.superfluous t.leftOut ≤ _ := remaining_le h.leftOut
  have hnames : names t ⊆ names s := subset_of_remaining_eq h.found h.found_new (by omega)
  have hnew : ∀ name ∈ t.leftOut, name ∈ s.leftOut ∨ name ∈ s.index.superfluous := fun name hmem =>
    (h.leftOut_new name hmem).imp_right fun ⟨_, hdropped⟩ => hdropped.mem_superfluous
  have hleftOut : t.leftOut ⊆ s.leftOut := subset_of_remaining_eq h.leftOut hnew (by omega)
  exact ⟨h.setting.symm, fun _ => ⟨fun hmem => h.found hmem, fun hmem => hnames hmem⟩,
    fun _ => ⟨fun hmem => h.leftOut hmem, fun hmem => hleftOut hmem⟩⟩

theorem tame_enter : Tame (enter owner plan u) Same (Grows u) (rank u) (nodesOf u) where
  equiv := ⟨Same.refl, Same.symm, Same.trans⟩
  agree node hs := by
    rcases alike_enter owner plan node hs with
      ⟨next, t, _, t', hm, hm', ht, -, rfl⟩ | ⟨e, t, t', hm, hm', ht, -⟩
    · exact Or.inl ⟨next, t, t', hm, hm', ht⟩
    · exact Or.inr ⟨e, t, t', hm, hm', ht⟩
  enter_grows hn := (alike_enter owner plan _).grows hn
  grows_refl := Grows.refl u
  grows_trans := Grows.trans
  rank_le := Grows.rank_le
  same_of_rank_eq := Grows.same_of_rank_eq
  mem_nodes := mem_nodesOf owner plan

/-- A walk that ends does so within `walkDepth` levels. -/
theorem length_nodesOf_mul_rank_lt (u : SourceUnit) (s : Session) :
    (nodesOf u).length * (rank u s + 1) < walkDepth u s.index := by
  have hnodes : (nodesOf u).length = u.cursors.size := by simp [nodesOf]
  have hspellings : u.spellings.length = u.cursors.size + 1 := by simp [SourceUnit.spellings]
  have hfound := remaining_le_length u.spellings (names s)
  have hleft := remaining_le_length s.index.superfluous s.leftOut
  rw [hnodes, walkDepth, rank]
  refine Nat.lt_succ_of_le (Nat.mul_le_mul_left _ ?_)
  omega

/-! ## Structures are found before their fields -/

section Kept

variable {owner plan} {name : String} {details : List Detail} {node named target : CursorRef}

/-- A structure of that name gets a symbol when one is requested. -/
def IsKept (owner : Owner) (s : Session) (name : String) : Prop :=
  owner = .c ∨ s.leavesOut = false ∨ Gir.verdict s.index s.leftOut .struct (some name) = .keep

/-- It gets one from then on. -/
theorem IsKept.grows (h : IsKept owner s name) (hg : Grows u s t) : IsKept owner t name := by
  have hleaves : t.leavesOut = s.leavesOut := congrArg Setting.leavesOut hg.setting
  rcases h with hc | hall | hkeep
  · exact Or.inl hc
  · exact Or.inr (Or.inl (hleaves.trans hall))
  · have hleft : some name ∉ s.leftOut := fun hmem => by
      rw [Gir.verdict, if_pos hmem] at hkeep
      cases hkeep
    rw [Gir.verdict, if_neg hleft] at hkeep
    -- what is left out later on, as whatever it may be, would be left out as a structure before
    have hleft' : some name ∉ t.leftOut := fun hmem => by
      rcases hg.leftOut_new _ hmem with hold | ⟨kind, hdropped⟩
      · exact hleft hold
      · obtain ⟨message, hdrop⟩ := hdropped.struct
        cases hkeep.symm.trans hdrop
    refine Or.inr (Or.inr ?_)
    rw [Gir.verdict, if_neg hleft', hg.index, hkeep]

theorem start_request_struct {slot : SymbolSlot} (hkept : IsKept owner s name)
    (h : (request owner .struct details).start s = (.ok slot, t)) (hnamed : Named details name) :
    ∃ id, slot = some id ∧ HasName t id name := by
  obtain ⟨id, hplain, hid⟩ := start_requestPlain s .struct hnamed
  generalize afterRequest s name { kind := .struct, details := details ++ [.language "c"] } = t' at hplain hid
  have hmade : Attempt.start (do return some (← requestPlain .struct details)) s = (.ok (some id), t') := by
    rw [Attempt.start_bind_ok hplain]
    rfl
  suffices hrequest : (request owner .struct details).start s = (.ok (some id), t') by
    cases hrequest.symm.trans h
    exact ⟨id, rfl, hid⟩
  cases owner with
  | c => exact hmade
  | introspection =>
    rcases hl : s.leavesOut with _ | _
    · exact (start_requestFiltered_all hl .struct details).trans hmade
    · rcases hkept with hc | hall | hkeep
      · cases hc
      · cases hl.symm.trans hall
      · show (requestFiltered .struct details).start s = _
        rw [start_requestFiltered hl .struct hnamed, hkeep]
        exact hmade

theorem start_struct {slot : SymbolSlot} (hkept : IsKept owner s (u.cursor named).spelling)
    (h : (struct owner u node (u.cursor named).spelling).start s = (.ok slot, t)) :
    ∃ id, slot = some id ∧ HasName t id (u.cursor named).spelling := by
  rw [struct] at h
  obtain ⟨part, t₁, hpart, h⟩ := Attempt.start_bind_eq_ok h
  have hg₁ : Grows u s t₁ := (alike_publicPart node).grows hpart
  simp only at h
  obtain ⟨members, t₂, hmembers, h⟩ := Attempt.start_bind_eq_ok h
  have hg₂ : Grows u t₁ t₂ := (Alike.mapM fun c _ => alike_field owner c _ _).grows hmembers
  exact start_request_struct (hkept.grows (hg₁.trans hg₂)) h ⟨fun _ => rfl, fun _ => rfl⟩

/-- A node leads to a structure with a name, and that is kept. -/
def NamesKept (owner : Owner) (files : List String) (u : SourceUnit) (s : Session) (node : CursorRef) :
    Prop :=
  ∃ target, target? files u node = .ok (some target) ∧ u.cursorKind target = .ok structDecl ∧
    (u.cursor target).spelling ≠ "" ∧ IsKept owner s (u.cursor target).spelling

theorem NamesKept.grows {files : List String} (h : NamesKept owner files u s node) (hg : Grows u s t) :
    NamesKept owner files u t node := by
  obtain ⟨target, htarget, hkind, hname, hkept⟩ := h
  exact ⟨target, htarget, hkind, hname, hkept.grows hg⟩

theorem functionNode?_eq_none {kind : Nat} (hkind : u.cursorKind target = .ok kind)
    (hfunction : kind ≠ functionDecl) (hbody : kind ≠ compoundStmt) : functionNode? u target = .ok none := by
  unfold functionNode?
  rw [hkind]
  cases (u.cursor target).file with
  | none => rfl
  | some file =>
    show (if file.endsWith ".h" then _ else _) = _
    by_cases hheader : file.endsWith ".h"
    · rw [if_pos hheader, if_neg hfunction]
      rfl
    · rw [if_neg hheader, if_pos hbody]
      rfl

theorem declared_struct (sources : List String) (hkind : u.cursorKind target = .ok structDecl)
    (hname : (u.cursor target).spelling ≠ "") :
    declared owner sources u target = struct owner u target (u.cursor target).spelling := by
  have hempty : (u.cursor target).spelling.isEmpty = false := by simpa using hname
  rw [declared, functionNode?_eq_none hkind (by decide) (by decide)]
  show declaredByKind owner sources u target = _
  rw [declaredByKind, hkind, hempty]
  rfl

/-- The kinds of nodes that can have a symbol. -/
def declaringKinds : List Nat := [functionDecl, compoundStmt, varDecl, typedefDecl, structDecl, enumDecl]

/-- Nodes of all other kinds, unions among them, have none. -/
theorem declared_other {kind : Nat} (sources : List String) (hkind : u.cursorKind target = .ok kind)
    (h : kind ∉ declaringKinds) : declared owner sources u target = pure none := by
  simp only [declaringKinds, List.mem_cons, List.not_mem_nil, or_false, not_or] at h
  obtain ⟨hfunction, hbody, hvar, htypedef, hstruct, henum⟩ := h
  rw [declared, functionNode?_eq_none hkind hfunction hbody]
  show declaredByKind owner sources u target = _
  rw [declaredByKind, hkind]
  show (if kind = varDecl then exportedVariable owner u target else _) = _
  rw [if_neg hvar, if_neg htypedef, if_neg (by simp [hstruct]), if_neg (by simp [henum])]

/-- **A structure that is kept is found before the walk goes on below it.** -/
theorem NamesKept.found {next : List CursorRef} (h : NamesKept owner plan.files u s node)
    (hm : (enter owner plan u node).start s = (.ok next, t)) (hnext : next ≠ []) :
    ∃ name ∈ names t, name ∉ names s := by
  obtain ⟨target, htarget, hkind, hname, hkept⟩ := h
  obtain ⟨target', slot, t₁, htarget', hnew, hslot, hnoted, -⟩ := start_enter_ok owner plan hm hnext
  cases htarget.symm.trans htarget'
  rw [declared_struct plan.sources hkind hname] at hslot
  obtain ⟨id, rfl, hid⟩ := start_struct hkept hslot
  cases (start_noteFound hid).symm.trans hnoted
  exact ⟨_, mem_names_withFound.mpr (Or.inr rfl), hnew⟩

end Kept

/-! ## Walks as descents -/

/-- What a step comes to is told by an outcome: it is that outcome, or the levels were too few. -/
def Tells (o : Option (Outcome Session)) (r : Outcome Session) : Prop :=
  match o with
  | some o => r = o
  | none => r.1 = .error .tooDeep

theorem tells_runAll {f : CursorRef → Session → Option (Outcome Session)} {g : CursorRef → Doc Unit}
    (h : ∀ node s, Tells (f node s) ((g node).start s)) (nodes : List CursorRef) (s : Session) :
    Tells (runAll f nodes s) ((nodes.forM g).start s) := by
  induction nodes generalizing s with
  | nil => rfl
  | cons node rest ih =>
    have hfirst := h node s
    have hbind : ((node :: rest).forM g).start s = _ := Attempt.start_bind (g node) (fun _ => rest.forM g) s
    rw [runAll, hbind]
    rcases hf : f node s with _ | ⟨_ | _, t⟩
    · rw [hf] at hfirst
      rcases hg : (g node).start s with ⟨_ | _, t⟩
      · rw [hg] at hfirst
        exact hfirst
      · rw [hg] at hfirst
        cases hfirst
    · rw [hf] at hfirst
      rw [show (g node).start s = _ from hfirst]
      rfl
    · rw [hf] at hfirst
      rw [show (g node).start s = _ from hfirst]
      exact ih t

/-- **A walk is a descent with a limit.** -/
theorem tells_walk (depth : Nat) (node : CursorRef) (s : Session) :
    Tells (within (enter owner plan u) depth node s) ((walk owner plan u depth node).start s) := by
  induction depth generalizing node s with
  | zero => rfl
  | succ depth ih =>
    rw [within, walk, Attempt.start_bind]
    rcases (enter owner plan u node).start s with ⟨_ | next, t⟩
    · rfl
    · exact tells_runAll ih next t

/-! ## When a walk ends -/

/-- A node leads on to those below its target. The way passes no structure that would be found. -/
def LeadsPast (owner : Owner) (files : List String) (u : SourceUnit) (s : Session) (a b : CursorRef) :
    Prop :=
  (∃ target, target? files u a = .ok (some target) ∧ b ∈ u.children target) ∧ ¬ NamesKept owner files u s a

/-- A walk on which nothing is found goes down past all structures that are kept. -/
theorem leadsPast_of_below {a b : CursorRef × Session} (hs : Grows u s a.2)
    (hab : Below (enter owner plan u) a b) (hnames : names b.2 ⊆ names a.2) :
    LeadsPast owner plan.files u s a.1 b.1 := by
  obtain ⟨next, v, henter, hb⟩ := hab
  have hmem : b.1 ∈ next := by
    obtain ⟨before, after, -, rfl, -⟩ := hb
    simp
  have hnext := List.ne_nil_of_mem hmem
  obtain ⟨target, -, -, htarget, -, -, -, rfl⟩ := start_enter_ok owner plan henter hnext
  refine ⟨⟨target, htarget, hmem⟩, fun hkept => ?_⟩
  obtain ⟨name, hfound, hnew⟩ := (hkept.grows hs).found henter hnext
  have hgrows : Grows u v b.2 := (tame_enter owner plan).comesTo_grows hb
  exact hnew (hnames (hgrows.found hfound))

theorem transGen_leadsPast {node : CursorRef} {b : CursorRef × Session} (hs : Grows u s t)
    (hdown : TransGen (Below (enter owner plan u)) (node, t) b) (hnames : names b.2 ⊆ names t) :
    TransGen (LeadsPast owner plan.files u s) node b.1 := by
  induction hdown with
  | single hab => exact .single (leadsPast_of_below owner plan hs hab hnames)
  | @tail b c hab hbc ih =>
    -- what was found at `c` was found at the start, so nothing was found on the whole way
    have hgrows : Grows u t b.2 := (tame_enter owner plan).reflTransGen_grows hab.to_reflTransGen
    have hgrows' : Grows u b.2 c.2 := (tame_enter owner plan).below_grows hbc
    refine .tail (ih (List.Subset.trans hgrows'.found hnames)) ?_
    exact leadsPast_of_below owner plan (hs.trans hgrows) hbc (List.Subset.trans hnames hgrows.found)

/-- **Every way round that a walk takes without end passes all structures that are kept.** -/
theorem ends_of_leadsPast {nodes : List CursorRef}
    (h : ∀ c, ¬ TransGen (LeadsPast owner plan.files u s) c c) : Ends (enter owner plan u) nodes s := by
  have tame := tame_enter (u := u) owner plan
  refine tame.ends_iff.mpr ?_
  rintro ⟨first, m, t, t', hfirst, hdown, hround, hsame⟩
  have hgrows : Grows u s t := (tame.comesTo_grows hfirst).trans (tame.reflTransGen_grows hdown)
  exact h m (transGen_leadsPast owner plan hgrows hround fun name => (hsame.found name).mpr)

/-! ## A type that refers to itself -/

/-- The lines of a header with a type whose one field, which is private, refers to the type. -/
def selfReferringLines : List String :=
  ["struct Node \x7b\n", "  /*< private >*/\n", "  struct Node *next;\n", "\x7d;\n"]

/-- The type in the header, as a structure or as a union. -/
def selfReferring (kind : Int) : SourceUnit where
  main := "/node.h"
  cursors := #[
    { kind, spelling := "Node", file := some "/node.h", line := 1, lastLine := 4, children := [.node 1]
      tokens := [{ kind := 4, spelling := "/*< private >*/", line := 2, column := 3 }] },
    { kind := 6, spelling := "next", file := some "/node.h", line := 3, children := [.node 2] },
    { kind := 43, definition := .node 0 }]

/-- The scan of its file. -/
def selfReferringPlan : Plan := { files := ["/node.h"] }

/-- A session that has read the header, and has found nothing yet. -/
def freshSession : Session := { environment := {}, quoted := [("/node.h", selfReferringLines)] }

/-- A session that leaves out the type. -/
def decliningSession : Session := { freshSession with leavesOut := true, leftOut := [some "Node"] }

/-- The one field is not public. -/
theorem publicPart_selfReferring (kind : Int) :
    (publicPart (selfReferring kind) (.node 0)).start decliningSession =
      (.ok ("struct Node \x7b\n\x7d;", []), decliningSession) := by
  have hsource : (sourceLines ((selfReferring kind).cursor (.node 0))).start decliningSession =
      (.ok (SourceLines.range selfReferringLines 1 4), decliningSession) := rfl
  have hmarks : sectionMarks ((selfReferring kind).cursor (.node 0)).tokens = .ok [⟨false, 2⟩] := by
    have hmark : PublicFields.markOf? "/*< private >*/" 2 = some ⟨false, 2⟩ := by decide +kernel
    show Except.ok ([PublicFields.markOf? "/*< private >*/" 2].filterMap id) = _
    rw [hmark]
    rfl
  have hpublic : PublicFields.publicFields 1 (SourceLines.range selfReferringLines 1 4) [⟨false, 2⟩]
      [((.node 1 : CursorRef), 3)] = ("struct Node \x7b\n\x7d;", []) := by decide +kernel
  rw [publicPart, Attempt.start_bind_ok hsource, hmarks, Attempt.start_bind_ok (Attempt.start_ofExcept _ _)]
  exact congrArg (fun part => (Except.ok part, decliningSession)) hpublic

theorem leadsPast_selfReferring {a b : CursorRef}
    (h : LeadsPast .c ["/node.h"] (selfReferring 2) freshSession a b) :
    a = .node 1 ∧ b = .node 2 := by
  obtain ⟨⟨target, htarget, hmem⟩, hnot⟩ := h
  have hkept (h : target? ["/node.h"] (selfReferring 2) a = .ok (some (.node 0))) : False :=
    hnot ⟨.node 0, h, rfl, by decide, Or.inl rfl⟩
  have ha : a ∈ nodesOf (selfReferring 2) := by
    by_contra ha
    rw [children_eq_nil ha htarget] at hmem
    cases hmem
  rw [show nodesOf (selfReferring 2) = [.node 0, .node 1, .node 2] from rfl] at ha
  simp only [List.mem_cons, List.not_mem_nil, or_false] at ha
  rcases ha with rfl | rfl | rfl
  · exact (hkept rfl).elim
  · have hself : target? ["/node.h"] (selfReferring 2) (.node 1) = .ok (some (.node 1)) := rfl
    cases hself.symm.trans htarget
    exact ⟨rfl, List.mem_singleton.mp hmem⟩
  · exact (hkept rfl).elim

/-- Nothing comes of a structure that was left out before and has only private fields. -/
theorem start_struct_of_leftOut {name text : String} {node : CursorRef}
    (hpublic : (publicPart u node).start s = (.ok (text, []), s)) (hleaves : s.leavesOut = true)
    (hleft : some name ∈ s.leftOut) : (struct .introspection u node name).start s = (.ok none, s) := by
  rw [struct, Attempt.start_bind_ok hpublic]
  simp only [List.mapM_nil, pure_bind, request]
  rw [start_requestFiltered hleaves .struct ⟨fun _ => rfl, fun _ => rfl⟩, Gir.verdict, if_pos hleft]

/-- A node that declares nothing only leads on. -/
theorem start_enter_of_none {owner : Owner} {plan : Plan} {node target : CursorRef}
    (htarget : target? plan.files u node = .ok (some target)) (hnew : (u.cursor target).spelling ∉ names s)
    (hnone : (declared owner plan.sources u target).start s = (.ok none, s)) :
    (enter owner plan u node).start s = (.ok (u.children target), s) := by
  rw [enter, htarget, Attempt.start_bind_ok (Attempt.start_ofExcept _ _)]
  simp only [Attempt.start_bind_ok (start_isFound s _)]
  rw [if_neg (by simpa using hnew), Attempt.start_bind_ok hnone]
  rfl

/-- A walk that goes round in a session that stays what it is has never enough levels. -/
theorem start_walk_of_round {owner : Owner} {plan : Plan} (nodes : List CursorRef)
    (h : ∀ node ∈ nodes, ∃ next ∈ nodes, (enter owner plan u node).start s = (.ok [next], s)) (depth : Nat)
    {node : CursorRef} (hnode : node ∈ nodes) :
    (walk owner plan u depth node).start s = (.error .tooDeep, s) := by
  induction depth generalizing node with
  | zero => rfl
  | succ depth ih =>
    obtain ⟨next, hnext, henter⟩ := h node hnode
    rw [walk, Attempt.start_bind_ok henter]
    exact Attempt.start_bind_error (ih hnext)

/-- If the type gets no symbol, its nodes lead on in a circle and nothing is found. -/
theorem start_walk_selfReferring {owner : Owner} {kind : Int} (hnew : names s = [])
    (htarget : target? ["/node.h"] (selfReferring kind) (.node 0) = .ok (some (.node 0)))
    (hnone : (declared owner [] (selfReferring kind) (.node 0)).start s = (.ok none, s)) (depth : Nat) :
    (walk owner selfReferringPlan (selfReferring kind) depth (.node 0)).start s = (.error .tooDeep, s) := by
  have hleads {node target : CursorRef}
      (htarget : target? ["/node.h"] (selfReferring kind) node = .ok (some target))
      (hnone : (declared owner [] (selfReferring kind) target).start s = (.ok none, s)) :
      (enter owner selfReferringPlan (selfReferring kind) node).start s
        = (.ok ((selfReferring kind).children target), s) :=
    start_enter_of_none htarget (by simp [hnew]) hnone
  have hfield : target? ["/node.h"] (selfReferring kind) (.node 1) = .ok (some (.node 1)) := rfl
  have hreference : target? ["/node.h"] (selfReferring kind) (.node 2) = .ok (some (.node 0)) := rfl
  have hnoField : (declared owner [] (selfReferring kind) (.node 1)).start s = (.ok none, s) := by
    have hkind : (selfReferring kind).cursorKind (.node 1) = .ok 6 := rfl
    rw [declared_other [] hkind (by decide)]
    rfl
  refine start_walk_of_round [.node 0, .node 1, .node 2] ?_ depth List.mem_cons_self
  simp only [List.forall_mem_cons]
  exact ⟨⟨.node 1, by simp, hleads htarget hnone⟩, ⟨.node 2, by simp, hleads hfield hnoField⟩,
    ⟨.node 1, by simp, hleads hreference hnone⟩, by simp⟩

/-! ## The theorem -/

/-- **When a walk ends.** It ends unless it goes into a node again below itself, with nothing found and nothing
left out in between. If it ends, `walkDepth` levels are enough, and more change nothing; if not, every number
of levels is too small. It ends if every way round in the tree leads through a structure that has a name and is
kept. -/
theorem ends_iff_walk (u : SourceUnit) (nodes : List CursorRef) (s : Session) :
    (Ends (enter owner plan u) nodes s ↔ ¬ Circles (enter owner plan u) Same nodes s) ∧
    (Ends (enter owner plan u) nodes s → ∃ o,
      runAll (within (enter owner plan u) (walkDepth u s.index)) nodes s = some o ∧
      ∀ depth ≥ walkDepth u s.index, (nodes.forM (walk owner plan u depth)).start s = o) ∧
    (¬ Ends (enter owner plan u) nodes s →
      ∀ depth, ((nodes.forM (walk owner plan u depth)).start s).1 = .error .tooDeep) ∧
    ((∀ c, ¬ TransGen (LeadsPast owner plan.files u s) c c) → Ends (enter owner plan u) nodes s) := by
  have tame := tame_enter (u := u) owner plan
  refine ⟨tame.ends_iff, fun hends => ?_, fun hnot depth => ?_, ends_of_leadsPast owner plan⟩
  · obtain ⟨o, ho⟩ := Option.isSome_iff_exists.mp
      (tame.isSome_runAll (length_nodesOf_mul_rank_lt u s) hends)
    refine ⟨o, ho, fun depth hdepth => ?_⟩
    have htells := tells_runAll (tells_walk (u := u) owner plan depth) nodes s
    rw [runAll_mono (fun _ _ _ => within_mono hdepth) ho] at htells
    exact htells
  · have htells := tells_runAll (tells_walk (u := u) owner plan depth) nodes s
    rcases ho : runAll (within (enter owner plan u) depth) nodes s with _ | o
    · rw [ho] at htells
      exact htells
    · exact absurd ⟨depth, by rw [ho]; rfl⟩ hnot

/-- A walk into a structure that refers to itself ends. -/
theorem ends_selfReferring :
    Ends (enter .c selfReferringPlan (selfReferring 2)) [.node 0] freshSession := by
  have hway {a b : CursorRef}
      (h : TransGen (LeadsPast .c ["/node.h"] (selfReferring 2) freshSession) a b) :
      a = .node 1 ∧ b = .node 2 := by
    induction h with
    | single h => exact leadsPast_selfReferring h
    | tail _ h ih => exact ⟨ih.1, (leadsPast_selfReferring h).2⟩
  refine (ends_iff_walk .c selfReferringPlan (selfReferring 2) [.node 0] freshSession).2.2.2 ?_
  intro c hround
  obtain ⟨rfl, h⟩ := hway hround
  cases h

/-- A walk into a union that refers to itself never ends, nor one into a structure that is left out. -/
theorem walk_tooDeep_selfReferring :
    (∀ depth, (walk .c selfReferringPlan (selfReferring 3) depth (.node 0)).start freshSession
      = (.error .tooDeep, freshSession)) ∧
    ∀ depth, (walk .introspection selfReferringPlan (selfReferring 2) depth (.node 0)).start decliningSession
      = (.error .tooDeep, decliningSession) := by
  have hunion : (declared .c [] (selfReferring 3) (.node 0)).start freshSession = (.ok none, freshSession) := by
    have hkind : (selfReferring 3).cursorKind (.node 0) = .ok 3 := rfl
    rw [declared_other [] hkind (by decide)]
    rfl
  have hdeclined : (declared .introspection [] (selfReferring 2) (.node 0)).start decliningSession
      = (.ok none, decliningSession) := by
    rw [declared_struct [] rfl (by decide)]
    exact start_struct_of_leftOut (publicPart_selfReferring 2) rfl (List.mem_singleton.mpr rfl)
  exact ⟨start_walk_selfReferring rfl rfl hunion, start_walk_selfReferring rfl rfl hdeclined⟩

end GirDoc.C
