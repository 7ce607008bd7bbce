import GirDoc.Proofs.C.MacroOrder

/-!
# Callbacks and what their nodes say

The node of a type of callbacks has one child for each parameter. If the type of the result is one that was declared, a
reference to that declaration comes before them. The symbol is made of the children by their places: the first one
stands for the result, whatever it is.

* `start_callback` says which symbol is made: its parameters are those of all children but the first, and its result
  is left empty if there are no children.
* So the symbol has all parameters and the result exactly if a reference to a type comes first
  (`callback_complete_iff`).
-/

namespace GirDoc.C

open Ast Session

/-! ## Nodes of callbacks -/

/-- The kind of the node of a parameter. -/
def parmDecl : Nat := 10

/-- The children of a node that are parameters. -/
def parameterChildren (u : SourceUnit) (node : CursorRef) : List CursorRef :=
  (u.children node).filter fun child => u.cursorKind child = .ok parmDecl

/-- The type of the result of a callback. -/
def resultType (u : SourceUnit) (node : CursorRef) : TypeRef :=
  (u.type (u.type (u.cursor node).underlying).pointee).result

/-- A reference to the declaration of a type comes first. -/
def TypeFirst (u : SourceUnit) (node : CursorRef) : Prop :=
  ∃ first, (u.children node).head? = some first ∧ u.cursorKind first = .ok typeRefKind

/-- The children of a node are its parameters, with at most one reference to the declaration of a type before them. -/
def ParametersLast (u : SourceUnit) (node : CursorRef) : Prop :=
  u.children node = parameterChildren u node ∨
    ∃ first, u.cursorKind first = .ok typeRefKind ∧ u.children node = first :: parameterChildren u node

variable {u : SourceUnit} {node : CursorRef} {owner : Owner} {sources : List String} {s t : Session}

/-- The type of a node can be written. -/
def IsWritten (u : SourceUnit) (type : TypeRef) : Prop := ∃ tokens, TypeName.tokens u type = .ok tokens

theorem kind_of_mem_parameterChildren {child : CursorRef} (h : child ∈ parameterChildren u node) :
    u.cursorKind child = .ok parmDecl := by
  simpa using (List.mem_filter.mp h).2

/-- A reference to a type comes first exactly if one child is no parameter. -/
theorem typeFirst_iff (h : ParametersLast u node) :
    TypeFirst u node ↔ ∃ first, u.children node = first :: parameterChildren u node := by
  constructor
  · rintro ⟨first, hfirst, hkind⟩
    rcases h with h | ⟨first', -, h⟩
    · -- the first child would be a parameter and a reference
      rw [h] at hfirst
      cases (kind_of_mem_parameterChildren (List.mem_of_head? hfirst)).symm.trans hkind
    · exact ⟨first', h⟩
  · rintro ⟨first, hchildren⟩
    rcases h with h | ⟨first', hkind, h⟩
    · have hlength := congrArg List.length (h.symm.trans hchildren)
      rw [List.length_cons] at hlength
      omega
    · exact ⟨first', by rw [h]; rfl, hkind⟩

/-! ## Written types -/

theorem baseTokens_ne_nil {type : TypeRef} {tokens : List TypeToken} (h : TypeName.baseTokens u type = .ok tokens) :
    tokens ≠ [] := by
  obtain ⟨kind, -, h⟩ := Attempt.exists_of_bind_eq_ok h
  dsimp only at h
  split at h
  · obtain ⟨d, -, h⟩ := Attempt.exists_of_bind_eq_ok h
    cases h
    exact List.append_ne_nil_of_right_ne_nil _ (List.cons_ne_nil _ _)
  split at h
  · obtain ⟨d, -, h⟩ := Attempt.exists_of_bind_eq_ok h
    obtain ⟨tag, -, h⟩ := Attempt.exists_of_bind_eq_ok h
    cases h
    exact List.append_ne_nil_of_right_ne_nil _ (List.cons_ne_nil _ _)
  · cases h
    exact List.cons_ne_nil _ _

/-- A written type has a token. -/
theorem tokens_ne_nil {type : TypeRef} {tokens : List TypeToken} (h : TypeName.tokens u type = .ok tokens) :
    tokens ≠ [] := by
  obtain ⟨kind, -, h⟩ := Attempt.exists_of_bind_eq_ok h
  split at h
  · obtain ⟨pointee, -, h⟩ := Attempt.exists_of_bind_eq_ok h
    cases h
    exact List.append_ne_nil_of_right_ne_nil _ (List.cons_ne_nil _ _)
  · exact baseTokens_ne_nil h

/-! ## Symbols of callbacks -/

/-- The symbol of a parameter: it has the name of its node. -/
def parameterSymbol (u : SourceUnit) (child : CursorRef) (tokens : List TypeToken) : Symbol :=
  { kind := .parameter, tokens := some tokens, argName := some (u.cursor child).display }

/-- The symbol of a result. -/
def resultSymbol (tokens : List TypeToken) : Symbol := { kind := .returnItem, tokens := some tokens }

/-- There is the symbol of a parameter for a node, with the type of the node. -/
def HasParameter (u : SourceUnit) (db : Database) (child : CursorRef) (id : SymbolId) : Prop :=
  ∃ tokens, TypeName.tokens u (u.cursor child).type = .ok tokens ∧ db.HasItem id (parameterSymbol u child tokens)

/-- A symbol has one parameter for each of some nodes, in order, and a result of some type. -/
structure Describes (u : SourceUnit) (db : Database) (x : Symbol) (children : List CursorRef)
    (result : List TypeToken) : Prop where
  parameters : ∃ ids, x.parameters = ids.map some ∧ List.Forall₂ (HasParameter u db) children ids
  result : ∃ id, x.returnValue = [some id] ∧ db.HasItem id (resultSymbol result)

/-! ## Making symbols -/

theorem start_typedItem {type : TypeRef} {tokens : List TypeToken} (h : TypeName.tokens u type = .ok tokens)
    (s : Session) : (typedItem u .returnItem type).start s =
      (.ok (s.database.add (resultSymbol tokens)).2,
        { s with database := (s.database.add (resultSymbol tokens)).1 }) := by
  rw [typedItem, typeTokens, h]
  rfl

theorem start_parameter {child : CursorRef} {tokens : List TypeToken}
    (h : TypeName.tokens u (u.cursor child).type = .ok tokens) (s : Session) :
    (parameter u child).start s =
      (.ok (s.database.add (parameterSymbol u child tokens)).2,
        { s with database := (s.database.add (parameterSymbol u child tokens)).1 }) := by
  rw [parameter, typeTokens, h]
  rfl

/-- The parameters are made one after the other. -/
theorem start_mapM_parameter {children : List CursorRef}
    (h : ∀ child ∈ children, IsWritten u (u.cursor child).type) (s : Session) :
    ∃ ids db, (children.mapM (parameter u)).start s = (.ok ids, { s with database := db }) ∧
      ItemsLast s { s with database := db } ∧ List.Forall₂ (HasParameter u db) children ids := by
  induction children generalizing s with
  | nil => exact ⟨[], s.database, rfl, itemsLast_of_eq rfl, .nil⟩
  | cons child rest ih =>
    obtain ⟨⟨tokens, htokens⟩, hrest⟩ := List.forall_mem_cons.mp h
    have hfirst := start_parameter htokens s
    have hitem := s.database.hasItem_add (parameterSymbol u child tokens)
    obtain ⟨ids, db, hstart, hlast, hids⟩ :=
      ih hrest { s with database := (s.database.add (parameterSymbol u child tokens)).1 }
    refine ⟨_ :: ids, db, ?_, fun id x hx => hlast id x (hx.add _), .cons ⟨tokens, htokens, hlast _ _ hitem⟩ hids⟩
    rw [List.mapM_cons, Attempt.start_bind_ok hfirst, Attempt.start_bind_ok hstart]
    rfl

/-- The parts of the symbol of a callback: its result, and its parameters. -/
def callbackParts (u : SourceUnit) (node : CursorRef) : Doc (SymbolId × List SymbolId) :=
  match u.children node with
  | [] => do return (← addItem .returnItem (some []), [])
  | _ :: rest => do return (← typedItem u .returnItem (resultType u node), ← rest.mapM (parameter u))

/-- What is requested for a callback. -/
def callbackDetails (u : SourceUnit) (node : CursorRef) (result : SymbolId) (ids : List SymbolId) : List Detail :=
  [.parameters (ids.map some), .returnValue [some result]] ++ placed (u.cursor node).spelling (u.cursor node)

theorem callback_eq (owner : Owner) (u : SourceUnit) (node : CursorRef) : callback owner u node = (do
    let parts ← callbackParts u node
    request owner .callback (callbackDetails u node parts.1 parts.2)) := by
  unfold callback callbackParts callbackDetails
  cases u.children node with
  | nil => simp only [bind_assoc, pure_bind]
  | cons first rest => simp only [bind_assoc, pure_bind, resultType]

/-- **The parts of a callback**: there is one parameter for each child but the first, and a result that has no type
if there is no child. -/
theorem start_callbackParts {tokens : List TypeToken} (htokens : TypeName.tokens u (resultType u node) = .ok tokens)
    (h : ∀ child ∈ (u.children node).tail, IsWritten u (u.cursor child).type) (s : Session) :
    ∃ result ids db, (callbackParts u node).start s = (.ok (result, ids), { s with database := db }) ∧
      List.Forall₂ (HasParameter u db) (u.children node).tail ids ∧
      db.HasItem result (resultSymbol (if u.children node = [] then [] else tokens)) := by
  unfold callbackParts
  cases hchildren : u.children node with
  | nil => exact ⟨_, [], _, rfl, .nil, s.database.hasItem_add (resultSymbol [])⟩
  | cons first rest =>
    rw [hchildren, List.tail_cons] at h
    have hitem := s.database.hasItem_add (resultSymbol tokens)
    obtain ⟨ids, db, hstart, hlast, hids⟩ :=
      start_mapM_parameter h { s with database := (s.database.add (resultSymbol tokens)).1 }
    refine ⟨(s.database.add (resultSymbol tokens)).2, ids, db, ?_, hids, ?_⟩
    · show Attempt.start (typedItem u .returnItem (resultType u node) >>= _) s = _
      rw [Attempt.start_bind_ok (start_typedItem htokens s), Attempt.start_bind_ok hstart]
      rfl
    · rw [if_neg (List.cons_ne_nil _ _)]
      exact hlast _ _ hitem

theorem typedefinition_eq_callback {type : TypeRef} (htype : u.underlyingType node = .ok type)
    (hpointer : u.isFunctionPointer type = .ok true) :
    typedefinition owner sources u node = callback owner u node := by
  simp only [typedefinition, htype, hpointer, Attempt.ofExcept, pure_bind, if_true]

/-- **A request is served, or it changes no symbol.** -/
theorem start_request_cases (owner : Owner) (s : Session) (kind : SymbolKind) {details : List Detail} {name : String}
    (h : Named details name) :
    isServed owner s { kind, details } = true ∧ (request owner kind details).start s =
        (.ok (some (s.database.serve (.text name) { kind, details := details ++ [.language "c"] }).2),
          afterRequest s name { kind, details := details ++ [.language "c"] }) ∨
      isServed owner s { kind, details } = false ∧
        ∃ t, (request owner kind details).start s = (.ok none, t) ∧ t.database = s.database := by
  have hmade : Attempt.start (do return some (← requestPlain kind details)) s =
      (.ok (some (s.database.serve (.text name) { kind, details := details ++ [.language "c"] }).2),
        afterRequest s name { kind, details := details ++ [.language "c"] }) := by
    rw [Attempt.start_bind_ok (start_requestPlain_of_key s (h.key kind))]
    rfl
  cases owner with
  | c => exact Or.inl ⟨rfl, hmade⟩
  | introspection =>
    cases hl : s.leavesOut with
    | false =>
      refine Or.inl ⟨?_, (start_requestFiltered_all hl kind details).trans hmade⟩
      rw [isServed, hl]
      rfl
    | true =>
      have hserved : isServed .introspection s { kind, details } =
          decide (Gir.verdict s.index s.leftOut kind (some name) = .keep) := by
        rw [isServed, hl, h.display kind]
        rfl
      have hstart := start_requestFiltered hl kind h
      rw [hserved]
      cases hv : Gir.verdict s.index s.leftOut kind (some name) with
      | keep =>
        rw [hv] at hstart
        exact Or.inl ⟨rfl, hstart.trans hmade⟩
      | drop | dropAlways _ | dropOnce _ =>
        rw [hv] at hstart
        exact Or.inr ⟨rfl, _, hstart, rfl⟩

/-- **The symbol of a callback**, unless introspection leaves it out. -/
theorem start_callback {tokens : List TypeToken} (htokens : TypeName.tokens u (resultType u node) = .ok tokens)
    (h : ∀ child ∈ (u.children node).tail, IsWritten u (u.cursor child).type) (owner : Owner) (s : Session) :
    ∃ slot t, (callback owner u node).start s = (.ok slot, t) ∧
      slot.isSome = isServed owner s
        { kind := .callback, details := [.displayName (some (u.cursor node).spelling)] } ∧
      ∀ id, slot = some id → ∃ x, t.database.get? id = some x ∧ Describes u t.database x (u.children node).tail
        (if u.children node = [] then [] else tokens) := by
  obtain ⟨result, ids, db, hparts, hids, hresult⟩ := start_callbackParts htokens h s
  rw [callback_eq, Attempt.start_bind_ok hparts]
  have hnamed : Named (callbackDetails u node result ids) (u.cursor node).spelling := ⟨fun _ => rfl, fun _ => rfl⟩
  have hserved : isServed owner { s with database := db }
      { kind := .callback, details := callbackDetails u node result ids } =
      isServed owner s { kind := .callback, details := [.displayName (some (u.cursor node).spelling)] } := by
    cases owner <;> rfl
  rcases start_request_cases owner { s with database := db } .callback hnamed with ⟨hyes, hstart⟩ | ⟨hno, t, hstart, -⟩
  · refine ⟨_, _, hstart, (hserved.symm.trans hyes).symm, fun id hid => ?_⟩
    obtain ⟨x, hx⟩ := db.get?_serve_applyTo (u.cursor node).spelling
      { kind := .callback, details := callbackDetails u node result ids ++ [.language "c"] }
    cases hid
    refine ⟨_, hx, ⟨ids, rfl, hids.imp fun _ _ => ?_⟩, result, rfl, hresult.serve _ _⟩
    rintro ⟨tokens, htokens, hitem⟩
    exact ⟨tokens, htokens, hitem.serve _ _⟩
  · refine ⟨none, t, hstart, (hserved.symm.trans hno).symm, fun id hid => ?_⟩
    cases hid

/-! ## Parameters that are lost -/

theorem Describes.length {db : Database} {x : Symbol} {children : List CursorRef} {result : List TypeToken}
    (h : Describes u db x children result) : x.parameters.length = children.length := by
  obtain ⟨ids, hids, hparameters⟩ := h.parameters
  rw [hids, List.length_map, hparameters.length_eq]

theorem Describes.result_unique {db : Database} {x : Symbol} {children children' : List CursorRef}
    {result result' : List TypeToken} (h : Describes u db x children result)
    (h' : Describes u db x children' result') : result = result' := by
  obtain ⟨id, hid, hitem⟩ := h.result
  obtain ⟨id', hid', hitem'⟩ := h'.result
  cases hid.symm.trans hid'
  have hsymbol := hitem.get.symm.trans hitem'.get
  simp only [resultSymbol, Option.some.injEq, Symbol.mk.injEq] at hsymbol
  simpa using hsymbol

/-- **The symbol of a callback has one parameter for each of its node, and the result, exactly if a reference to a type
comes before them.** Otherwise its first parameter is lost, or its result if it has no parameters. -/
theorem callback_complete_iff (owner : Owner) (sources : List String) (u : SourceUnit) (node : CursorRef) (s : Session)
    {type : TypeRef} {tokens : List TypeToken} (htype : u.underlyingType node = .ok type)
    (hpointer : u.isFunctionPointer type = .ok true) (hchildren : ParametersLast u node)
    (hwritten : ∀ child ∈ parameterChildren u node, IsWritten u (u.cursor child).type)
    (htokens : TypeName.tokens u (resultType u node) = .ok tokens) :
    ∃ slot t, (typedefinition owner sources u node).start s = (.ok slot, t) ∧
      slot.isSome = isServed owner s
        { kind := .callback, details := [.displayName (some (u.cursor node).spelling)] } ∧
      ∀ id, slot = some id → ∃ x, t.database.get? id = some x ∧
        (Describes u t.database x (parameterChildren u node) tokens ↔ TypeFirst u node) ∧
        (¬ TypeFirst u node → Describes u t.database x (parameterChildren u node).tail
          (if parameterChildren u node = [] then [] else tokens)) := by
  have hrest : ∀ child ∈ (u.children node).tail, IsWritten u (u.cursor child).type := by
    intro child hchild
    rcases hchildren with h | ⟨first, -, h⟩
    · rw [h] at hchild
      exact hwritten child (List.mem_of_mem_tail hchild)
    · rw [h] at hchild
      exact hwritten child hchild
  obtain ⟨slot, t, hstart, hserved, hslot⟩ := start_callback htokens hrest owner s
  rw [typedefinition_eq_callback htype hpointer]
  refine ⟨slot, t, hstart, hserved, fun id hid => ?_⟩
  obtain ⟨x, hx, hdescribes⟩ := hslot id hid
  refine ⟨x, hx, ?_⟩
  by_cases hfirst : TypeFirst u node
  · obtain ⟨first, h⟩ := (typeFirst_iff hchildren).mp hfirst
    rw [h, if_neg (List.cons_ne_nil _ _)] at hdescribes
    exact ⟨⟨fun _ => hfirst, fun _ => hdescribes⟩, fun hnot => absurd hfirst hnot⟩
  · have h : u.children node = parameterChildren u node :=
      hchildren.resolve_right (by
        rintro ⟨first, -, h⟩
        exact hfirst ((typeFirst_iff hchildren).mpr ⟨first, h⟩))
    rw [h] at hdescribes
    refine ⟨⟨fun hall => ?_, fun hyes => absurd hyes hfirst⟩, fun _ => hdescribes⟩
    -- the symbol has one parameter less than there are, or there are none and its result is empty
    have hlength := hdescribes.length.symm.trans hall.length
    rw [List.length_tail] at hlength
    have hnone : parameterChildren u node = [] := List.length_eq_zero_iff.mp (by omega)
    rw [if_pos hnone] at hdescribes
    exact absurd (hall.result_unique hdescribes) (tokens_ne_nil htokens)

/-- Three types of callbacks: `F` returns nothing and has a parameter, `G` returns nothing and has none, and `H` returns
a type that is declared and has a parameter. -/
def threeCallbacks : SourceUnit where
  main := "/a.h"
  cursors := #[
    { kind := 20, spelling := "F", file := some "/a.h", line := 1, children := [.node 1], underlying := .type 0 },
    { kind := 10, spelling := "a", type := .type 3 },
    { kind := 20, spelling := "G", file := some "/a.h", line := 2, underlying := .type 4 },
    { kind := 20, spelling := "H", file := some "/a.h", line := 3, children := [.node 4, .node 1], underlying := .type 6 },
    { kind := 43, spelling := "gint" },
    { kind := 20, spelling := "gint" }]
  types := #[
    { kind := 101, pointee := .type 1 }, { kind := 111, result := .type 2 }, { kind := 2, spelling := "void" },
    { kind := 17, spelling := "int" },
    { kind := 101, pointee := .type 5 }, { kind := 111, result := .type 2 },
    { kind := 101, pointee := .type 7 }, { kind := 111, result := .type 8 },
    { kind := 107, spelling := "gint", declaration := .node 5 }]

/-- The callback `H` has its parameter and its result. -/
theorem callback_complete_declared :
    ParametersLast threeCallbacks (.node 3) ∧ TypeFirst threeCallbacks (.node 3) ∧
    ∃ id t x, (typedefinition .c [] threeCallbacks (.node 3)).start { environment := {} } = (.ok (some id), t) ∧
      t.database.get? id = some x ∧
      Describes threeCallbacks t.database x [.node 1] [.link (Link.named (some "gint"))] := by
  obtain ⟨htype, hpointer, hkind, hparameters, hwritten, htokens⟩ :
      threeCallbacks.underlyingType (.node 3) = .ok (.type 6) ∧
      threeCallbacks.isFunctionPointer (.type 6) = .ok true ∧
      threeCallbacks.cursorKind (.node 4) = .ok typeRefKind ∧
      parameterChildren threeCallbacks (.node 3) = [.node 1] ∧
      TypeName.tokens threeCallbacks (.type 3) = .ok [.text "int "] ∧
      TypeName.tokens threeCallbacks (resultType threeCallbacks (.node 3)) =
        .ok [.link (Link.named (some "gint"))] :=
    ⟨rfl, rfl, rfl, rfl, rfl, rfl⟩
  have hchildren : threeCallbacks.children (.node 3) = .node 4 :: parameterChildren threeCallbacks (.node 3) := by
    rw [hparameters]
    rfl
  have hlast : ParametersLast threeCallbacks (.node 3) := Or.inr ⟨.node 4, hkind, hchildren⟩
  have hfirst : TypeFirst threeCallbacks (.node 3) := ⟨.node 4, by rw [hchildren]; rfl, hkind⟩
  obtain ⟨slot, t, hstart, hserved, hslot⟩ := callback_complete_iff .c [] threeCallbacks (.node 3) { environment := {} }
    htype hpointer hlast (by simpa [hparameters] using ⟨_, hwritten⟩) htokens
  obtain ⟨id, rfl⟩ := Option.isSome_iff_exists.mp hserved
  obtain ⟨x, hx, hcomplete, -⟩ := hslot id rfl
  rw [hparameters] at hcomplete
  exact ⟨hlast, hfirst, id, t, x, hstart, hx, hcomplete.mpr hfirst⟩

/-- **The callback `F` has lost its only parameter, and the callback `G` its result.** -/
theorem callback_incomplete :
    parameterChildren threeCallbacks (.node 0) = [.node 1] ∧
    (((typedefinition .c [] threeCallbacks (.node 0)).start { environment := {} }).2.database.symbol? "F").map
      Symbol.parameters = some [] ∧
    TypeName.tokens threeCallbacks (resultType threeCallbacks (.node 2)) = .ok [.text "void "] ∧
    (((typedefinition .c [] threeCallbacks (.node 2)).start { environment := {} }).2.database.symbol? "G").map
      Symbol.returnValue = some [some 0] ∧
    (((typedefinition .c [] threeCallbacks (.node 2)).start { environment := {} }).2.database.get? 0).map
      Symbol.tokens = some (some []) :=
  ⟨rfl, rfl, rfl, rfl, rfl⟩

end GirDoc.C
