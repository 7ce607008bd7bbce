import Mathlib.Data.List.Forall2
import Mathlib.Tactic.MkIffOfInductiveProp
import GirDoc.Gir.Resolve
import GirDoc.Proofs.Attempt
import GirDoc.Proofs.Database
import GirDoc.Proofs.Value.Dictionary

/-!
# What a signature is made of

The element of something that can be called says what is passed to it and what comes back. A symbol is made of each
parameter, and one of each item of the result.

* `IsDescribed n` is what the element has to have. Then all symbols can be made (`start_createSignature`).
* `HasSignature n` says also that each direction is a known one, and that a method has an instance.
* `Grows s t`: symbols were added, and those that were there are as they were. `Made s t id x` is one that was added.
* The items of the result are that which is returned, unless it is nothing, and one for each parameter that is set
  (`returnItems`).
-/

namespace GirDoc.Gir

open Session Xml

/-! ## Elements of signatures -/

/-- The elements of parameters, without that of the instance of a method. -/
def parameterNodes (n : Node) : List Node :=
  ((n.child? (core "parameters")).map (·.childrenOf (core "parameter"))).getD []

/-- The element of the instance of a method. -/
def instanceNode? (n : Node) : Option Node :=
  (n.child? (core "parameters")).bind (·.child? (core "instance-parameter"))

/-- The elements of all that C passes, in order. -/
def describedNodes (n : Node) : List Node := (instanceNode? n).toList ++ parameterNodes n

/-- The direction of a parameter. Without one it goes in. -/
def directionOf (p : Node) : String := (p.attribute? "direction").getD "in"

/-- The parameters that are set. -/
def outNodes (n : Node) : List Node := (parameterNodes n).filter fun p => directionOf p ∈ ["out", "inout"]

/-- The parameters that do not only go in. -/
def setNodes (n : Node) : List Node := (parameterNodes n).filter fun p => directionOf p ≠ "in"

/-- An element says of which type it is, and stands in a namespace that has a name. -/
def IsTyped (p : Node) : Prop := (statedType p).isOk ∧ (namespaceOf p).isOk

instance (p : Node) : Decidable (IsTyped p) := inferInstanceAs (Decidable (_ ∧ _))

/-- What the element of something that can be called has to have for its symbols to be made. -/
@[mk_iff]
structure IsDescribed (n : Node) : Prop where
  named : (n.attribute? "name").isSome
  parameterNamed : ∀ p ∈ describedNodes n, (p.attribute? "name").isSome
  parameterTyped : ∀ p ∈ describedNodes n, IsTyped p
  returns : ∃ r ∈ n.child? (core "return-value"), IsTyped r

instance (n : Node) : Decidable (IsDescribed n) := decidable_of_iff' _ (isDescribed_iff n)

/-- What it has to have for all that it describes to be shown: known directions, and an instance if it is a method. -/
@[mk_iff]
structure HasSignature (n : Node) : Prop extends IsDescribed n where
  directed : ∀ p ∈ parameterNodes n, directionOf p ∈ ["in", "out", "inout"]
  instanced : n.tag.endsWith "method" → (instanceNode? n).isSome

instance (n : Node) : Decidable (HasSignature n) := decidable_of_iff' _ (hasSignature_iff n)

/-- The tokens of the type of an element. -/
def tokensOf (x : Index) (p : Node) : Option (List TypeToken) := (typeOf x p).toOption.bind Prod.fst

/-- The name of the type of an element, with its namespace if it is a class. -/
def fullTypeName (x : Index) (p : Node) : Option String := (typeOf x p).toOption.bind Prod.snd

/-- The name of the type of an element, as it stands there. -/
def statedName (p : Node) : Option String := (statedType p).toOption.bind Prod.snd

variable {x : Index} {n p r : Node} {s t t' : Session} {id : SymbolId} {y : Symbol}

/-- The parameters that do not only go in are set. -/
theorem HasSignature.setNodes_eq (h : HasSignature n) : setNodes n = outNodes n := by
  refine List.filter_congr fun p hp => decide_eq_decide.mpr ?_
  have hp := h.directed p hp
  simp only [List.mem_cons, List.not_mem_nil, or_false] at hp ⊢
  rcases hp with hp | hp | hp <;> simp [hp]

theorem IsTyped.exists_ok (h : IsTyped p) :
    (∃ type, statedType p = .ok type) ∧ ∃ space, namespaceOf p = .ok space := by
  obtain ⟨htype, hspace⟩ := h
  cases htyped : statedType p with
  | error e => rw [htyped] at htype; cases htype
  | ok type =>
    cases hspaced : namespaceOf p with
    | error e => rw [hspaced] at hspace; cases hspace
    | ok space => exact ⟨⟨type, rfl⟩, space, rfl⟩

/-- C knows every class of an index by a name. -/
theorem exists_type {key : String} (h : x.class? key = some n) : ∃ name, n.attribute? (c "type") = some name :=
  Option.isSome_iff_exists.mp (x.typed_classes _ (Value.mem_of_lookup h))

theorem exists_namedTokens (x : Index) (space name : String) :
    ∃ tokens, namedTokens x space name = .ok tokens := by
  unfold namedTokens
  split
  · exact ⟨_, rfl⟩
  · cases hclass : classNamed? x space name with
    | none => exact ⟨_, rfl⟩
    | some m =>
      obtain ⟨own, hown⟩ : ∃ own, m.attribute? (c "type") = some own := by
        rcases Option.or_eq_some_iff.mp hclass with hm | ⟨-, hm⟩
        · exact exists_type hm
        · exact exists_type hm
      simp only [hown]
      exact ⟨_, rfl⟩

/-- The type of an element can be written. Its name is as it stands there, unless it is that of a class. -/
theorem exists_typeOf (x : Index) {type : Option String × Option String} {space : String}
    (htype : statedType p = .ok type) (hspace : namespaceOf p = .ok space) :
    ∃ tokens, typeOf x p = .ok (tokens, if (x.class? (space ++ "." ++ spelled type.2)).isSome
      then some (space ++ "." ++ spelled type.2) else type.2) := by
  obtain ⟨declared, name⟩ := type
  cases declared with
  | some text => exact ⟨some (declaredTokens text), by rw [typeOf, htype, hspace]; rfl⟩
  | none =>
    cases name with
    | none => exact ⟨some [], by rw [typeOf, htype, hspace]; rfl⟩
    | some name =>
      obtain ⟨tokens, htokens⟩ := exists_namedTokens x space name
      refine ⟨tokens, ?_⟩
      rw [typeOf, htype, hspace]
      show (namedTokens x space name >>= _) = _
      rw [htokens]
      rfl

theorem typeOf_eq (x : Index) (hp : IsTyped p) :
    typeOf x p = .ok (tokensOf x p, fullTypeName x p) := by
  obtain ⟨⟨type, htype⟩, space, hspace⟩ := hp.exists_ok
  obtain ⟨tokens, h⟩ := exists_typeOf x htype hspace
  rw [tokensOf, fullTypeName, h]
  rfl

/-- **A type is that of nothing exactly if its element says so.** -/
theorem fullTypeName_eq_none_iff (hnone : ∀ space, x.class? (space ++ ".none") = none)
    (hp : IsTyped p) : fullTypeName x p = some "none" ↔ statedName p = some "none" := by
  obtain ⟨⟨type, htype⟩, space, hspace⟩ := hp.exists_ok
  obtain ⟨tokens, h⟩ := exists_typeOf x htype hspace
  rw [fullTypeName, h, statedName, htype]
  show (if _ then _ else _) = some "none" ↔ type.2 = some "none"
  split
  · next hclass =>
    -- the name of a class has a dot in it, and no class is called so
    constructor
    · intro heq
      have hdot : '.' ∈ "none".toList := by
        rw [← Option.some.inj heq]
        simp
      exact absurd hdot (by decide)
    · intro hname
      have hfull : space ++ "." ++ spelled (some "none") = space ++ ".none" := by
        rw [String.append_assoc, spelled, Option.getD_some, show "." ++ "none" = ".none" by decide]
      rw [hname, hfull, hnone space] at hclass
      cases hclass
  · rfl

/-! ## Symbols that are added -/

/-- Symbols may have been added, and those that were there are as they were. -/
structure Grows (s t : Session) : Prop where
  index : t.index = s.index
  kept : ∀ id y, s.database.get? id = some y → t.database.get? id = some y

theorem Grows.refl (s : Session) : Grows s s := ⟨rfl, fun _ _ => id⟩

theorem Grows.trans (h : Grows s t) (h' : Grows t t') : Grows s t' where
  index := h'.index.trans h.index
  kept id y hy := h'.kept id y (h.kept id y hy)

/-- A symbol was not there and was added. -/
structure Made (s t : Session) (id : SymbolId) (y : Symbol) : Prop where
  fresh : s.database.get? id = none
  there : t.database.get? id = some y

theorem Made.later (h : Made s t id y) (h' : Grows t t') : Made s t' id y := ⟨h.fresh, h'.kept id y h.there⟩

theorem Made.earlier (h : Made t t' id y) (h' : Grows s t) : Made s t' id y := by
  refine ⟨Option.eq_none_iff_forall_ne_some.mpr fun y' hy' => ?_, h.there⟩
  cases h.fresh.symm.trans (h'.kept id y' hy')

/-- A symbol that was there before is another one. -/
theorem Made.ne (h : Made s t id y) {id' : SymbolId} {y' : Symbol} (hy' : s.database.get? id' = some y') :
    id ≠ id' := by
  rintro rfl
  cases h.fresh.symm.trans hy'

theorem start_addSymbol (s : Session) (y : Symbol) :
    ∃ id t, (addSymbol y).start s = (.ok id, t) ∧ Grows s t ∧ Made s t id y := by
  refine ⟨s.database.symbols.size, { s with database := (s.database.add y).1 }, rfl,
    ⟨rfl, fun _ _ => Database.get?_add_of_get? y⟩, ?_, ?_⟩
  · exact Array.getElem?_eq_none (Nat.le_refl _)
  · exact Array.getElem?_push_size

/-- What is made one after the other is all there in the end. `made` says what is made from each source. -/
theorem start_mapM_made {α β γ : Type} {f : α → Doc β} (made : Session → Session → γ → β → Prop)
    (hlater : ∀ s t t' c b, made s t c b → Grows t t' → made s t' c b)
    (hearlier : ∀ s t t' c b, made t t' c b → Grows s t → made s t' c b) {sources : List γ} {items : List α}
    (h : List.Forall₂ (fun c a => ∀ s', Grows s s' →
      ∃ b t, (f a).start s' = (.ok b, t) ∧ Grows s' t ∧ made s' t c b) sources items) :
    ∃ bs t, (items.mapM f).start s = (.ok bs, t) ∧ Grows s t ∧ List.Forall₂ (made s t) sources bs := by
  induction sources generalizing items s with
  | nil =>
    cases h
    exact ⟨[], s, rfl, .refl s, .nil⟩
  | cons c sources ih =>
    obtain ⟨a, items, hfirst, hrest, rfl⟩ := List.forall₂_cons_left_iff.mp h
    obtain ⟨b, t, hstart, hgrows, hmade⟩ := hfirst s (.refl s)
    -- what can be made from the others can still be made after the first
    obtain ⟨bs, t', hstart', hgrows', hmade'⟩ := ih (hrest.imp fun _ _ h s' hs' => h s' (hgrows.trans hs'))
    refine ⟨b :: bs, t', ?_, hgrows.trans hgrows', .cons (hlater s t t' c b hmade hgrows') ?_⟩
    · rw [List.mapM_cons, Attempt.start_bind_ok hstart, Attempt.start_bind_ok hstart']
      rfl
    · exact hmade'.imp fun c' b' h => hearlier s t t' c' b' h hgrows

/-! ## Parameters -/

/-- The symbol of a parameter. -/
def parameterSymbol (x : Index) (p : Node) : Symbol :=
  { kind := .parameter, tokens := tokensOf x p, argName := p.attribute? "name",
    attributes := [nameAttribute (fullTypeName x p), ("direction", .value (.text (directionOf p)))] }

theorem start_typeNow (s : Session) (hp : IsTyped p) :
    (typeNow p).start s = (.ok (tokensOf s.index p, fullTypeName s.index p), s) := by
  rw [typeNow, Attempt.start_bind_ok (Attempt.start_get s), Attempt.start_ofExcept, typeOf_eq _ hp]

theorem start_createParameter (s : Session) (hname : (p.attribute? "name").isSome)
    (hp : IsTyped p) : ∃ id t, (createParameter p).start s = (.ok (id, directionOf p), t) ∧ Grows s t ∧
      Made s t id (parameterSymbol s.index p) := by
  obtain ⟨name, hname⟩ := Option.isSome_iff_exists.mp hname
  obtain ⟨id, t, hadd, hgrows, hmade⟩ := start_addSymbol s (parameterSymbol s.index p)
  rw [parameterSymbol, hname] at hadd
  refine ⟨id, t, ?_, hgrows, hmade⟩
  rw [createParameter, hname, Attempt.start_bind_ok (Attempt.start_need_some _ _ _),
    Attempt.start_bind_ok (start_typeNow s hp)]
  exact Attempt.start_bind_ok hadd

/-- The symbol of a parameter was added, and its direction is known. -/
def MadeParameter (x : Index) (s t : Session) (p : Node) (o : SymbolId × String) : Prop :=
  Made s t o.1 (parameterSymbol x p) ∧ o.2 = directionOf p

theorem start_createParameters (s : Session) {ps : List Node}
    (hnamed : ∀ p ∈ ps, (p.attribute? "name").isSome) (htyped : ∀ p ∈ ps, IsTyped p) :
    ∃ others t, (ps.mapM createParameter).start s = (.ok others, t) ∧ Grows s t ∧
      List.Forall₂ (MadeParameter s.index s t) ps others := by
  refine start_mapM_made (MadeParameter s.index) (fun _ _ _ _ _ h hgrows => ⟨h.1.later hgrows, h.2⟩)
    (fun _ _ _ _ _ h hgrows => ⟨h.1.earlier hgrows, h.2⟩) (List.forall₂_same.mpr fun p hp s' hs' => ?_)
  obtain ⟨id, t, hstart, hgrows, hmade⟩ := start_createParameter s' (hnamed p hp) (htyped p hp)
  exact ⟨_, t, hstart, hgrows, hs'.index ▸ hmade, rfl⟩

/-! ## Results -/

/-- The symbol of that which is returned, unless it is nothing. -/
def returnedSymbol? (x : Index) (r : Node) : Option Symbol :=
  if fullTypeName x r = some "none" then none
  else some { kind := .returnItem, tokens := tokensOf x r, attributes := [nameAttribute (fullTypeName x r)] }

/-- The symbol of a parameter that is set, as an item of the result. -/
def outSymbol (x : Index) (p : Node) : Symbol :=
  { kind := .returnItem, tokens := tokensOf x p, itemName := p.attribute? "name" }

/-- The items of a result: what is returned, then the parameters that are set. -/
def returnItems (x : Index) (r : Node) (outs : List Node) : List (Option Symbol) :=
  returnedSymbol? x r :: outs.map fun p => some (outSymbol x p)

/-- A place holds a symbol that was added, or is empty. -/
inductive Fills (s t : Session) : Option Symbol → SymbolSlot → Prop where
  | empty : Fills s t none none
  | made {id : SymbolId} {y : Symbol} (h : Made s t id y) : Fills s t (some y) (some id)

theorem Fills.later {e : Option Symbol} {slot : SymbolSlot} (h : Fills s t e slot) (hgrows : Grows t t') :
    Fills s t' e slot := by
  cases h with
  | empty => exact .empty
  | made h => exact .made (h.later hgrows)

theorem Fills.earlier {e : Option Symbol} {slot : SymbolSlot} (h : Fills t t' e slot) (hgrows : Grows s t) :
    Fills s t' e slot := by
  cases h with
  | empty => exact .empty
  | made h => exact .made (h.earlier hgrows)

theorem start_symbol (h : s.database.get? id = some y) : (symbol id).start s = (.ok y, s) := by
  rw [symbol, Attempt.start_bind_ok (Attempt.start_get s), h]
  rfl

/-- An item of the result for a parameter. -/
def createOut (out : SymbolId) : Doc SymbolSlot := do
  let s ← symbol out
  return some (← addSymbol { kind := .returnItem, tokens := s.tokens, itemName := s.argName })

theorem start_createOut {out : SymbolId} (h : s.database.get? out = some (parameterSymbol x p)) :
    ∃ slot t, (createOut out).start s = (.ok slot, t) ∧ Grows s t ∧ Fills s t (some (outSymbol x p)) slot := by
  obtain ⟨id, t, hadd, hgrows, hmade⟩ := start_addSymbol s (outSymbol x p)
  refine ⟨some id, t, ?_, hgrows, .made hmade⟩
  rw [createOut, Attempt.start_bind_ok (start_symbol h)]
  exact Attempt.start_bind_ok hadd

theorem start_createOuts {outs : List SymbolId} {ps : List Node}
    (houts : List.Forall₂ (fun p out => s.database.get? out = some (parameterSymbol x p)) ps outs) :
    ∃ slots t, (outs.mapM createOut).start s = (.ok slots, t) ∧ Grows s t ∧
      List.Forall₂ (fun p slot => Fills s t (some (outSymbol x p)) slot) ps slots :=
  start_mapM_made (fun s t p slot => Fills s t (some (outSymbol x p)) slot)
    (fun _ _ _ _ _ h hgrows => h.later hgrows) (fun _ _ _ _ _ h hgrows => h.earlier hgrows)
    (houts.imp fun _ _ h _ hs' => start_createOut (hs'.kept _ _ h))

/-- What is returned, unless it is nothing. -/
def createReturned (tokens : Option (List TypeToken)) (type : Option String) : Doc SymbolSlot :=
  if type = some "none" then return none
  else return some (← addSymbol { kind := .returnItem, tokens, attributes := [nameAttribute type] })

theorem createReturn_eq (r : Node) (outs : List SymbolId) : createReturn r outs = (do
    let type ← typeNow r
    let first ← createReturned type.1 type.2
    let others ← outs.mapM createOut
    return first :: others) := by
  unfold createReturn createReturned
  refine congrArg _ (funext fun type => ?_)
  dsimp only
  split
  · rw [pure_bind]
    rfl
  · rw [bind_assoc]
    simp only [pure_bind]
    rfl

theorem start_createReturned (s : Session) (r : Node) :
    ∃ slot t, (createReturned (tokensOf s.index r) (fullTypeName s.index r)).start s = (.ok slot, t) ∧ Grows s t ∧
      Fills s t (returnedSymbol? s.index r) slot := by
  unfold createReturned returnedSymbol?
  split
  · exact ⟨none, s, rfl, .refl s, .empty⟩
  · obtain ⟨id, t, hadd, hgrows, hmade⟩ := start_addSymbol s
      { kind := .returnItem, tokens := tokensOf s.index r, attributes := [nameAttribute (fullTypeName s.index r)] }
    exact ⟨some id, t, Attempt.start_bind_ok hadd, hgrows, .made hmade⟩

/-- **The items of a result.** -/
theorem start_createReturn {outs : List SymbolId} {ps : List Node} (hr : IsTyped r)
    (houts : List.Forall₂ (fun p out => s.database.get? out = some (parameterSymbol s.index p)) ps outs) :
    ∃ slots t, (createReturn r outs).start s = (.ok slots, t) ∧ Grows s t ∧
      List.Forall₂ (Fills s t) (returnItems s.index r ps) slots := by
  obtain ⟨first, t, hfirst, hgrows, hfills⟩ := start_createReturned s r
  obtain ⟨others, t', hothers, hgrows', hfills'⟩ := start_createOuts (s := t) (houts.imp fun _ _ h => hgrows.kept _ _ h)
  refine ⟨first :: others, t', ?_, hgrows.trans hgrows', .cons (hfills.later hgrows') ?_⟩
  · rw [createReturn_eq, Attempt.start_bind_ok (start_typeNow s hr), Attempt.start_bind_ok hfirst,
      Attempt.start_bind_ok hothers]
    rfl
  · exact List.forall₂_map_left_iff.mpr (hfills'.imp fun _ _ h => h.earlier hgrows)

/-! ## Signatures -/

/-- The parameters after the instance, and the result. -/
def createOthers (n : Node) (instances : List SymbolId) : Doc (List SymbolId × List SymbolSlot) := do
  let others ← (parameterNodes n).mapM createParameter
  let result ← Attempt.need .noSuchPart (n.child? (core "return-value"))
  return (instances ++ others.map Prod.fst,
    ← createReturn result ((others.filter fun o => o.2 ≠ "in").map Prod.fst))

theorem createSignature_eq (n : Node) : createSignature n = match instanceNode? n with
    | some p => createParameter p >>= fun q => createOthers n [q.1]
    | none => createOthers n [] := by
  unfold createSignature instanceNode?
  dsimp only
  cases (n.child? (core "parameters")).bind (·.child? (core "instance-parameter")) <;> rfl

theorem forall₂_outs {others : List (SymbolId × String)}
    (h : List.Forall₂ (MadeParameter x s t) (parameterNodes n) others) :
    List.Forall₂ (fun p out => Made s t out (parameterSymbol x p)) (setNodes n)
      ((others.filter fun o => o.2 ≠ "in").map Prod.fst) := by
  rw [setNodes, List.forall₂_map_right_iff]
  refine (List.rel_filter (fun p o hp => ?_) h).imp fun _ _ hp => hp.1
  simp [hp.2]

/-- The parameters after the instance, and the result. -/
theorem start_createOthers (s : Session) (hn : IsDescribed n) (instances : List SymbolId)
    (hr : n.child? (core "return-value") = some r) :
    ∃ described slots t, (createOthers n instances).start s = (.ok (instances ++ described, slots), t) ∧ Grows s t ∧
      List.Forall₂ (fun p id => Made s t id (parameterSymbol s.index p)) (parameterNodes n) described ∧
      List.Forall₂ (Fills s t) (returnItems s.index r (setNodes n)) slots := by
  have hmem {p : Node} (hp : p ∈ parameterNodes n) : p ∈ describedNodes n := List.mem_append_right _ hp
  obtain ⟨others, t, hothers, hgrows, hmade⟩ := start_createParameters s
    (fun p hp => hn.parameterNamed p (hmem hp)) (fun p hp => hn.parameterTyped p (hmem hp))
  have hreturns : IsTyped r := by
    obtain ⟨r', hr', htyped⟩ := hn.returns
    cases hr.symm.trans (Option.mem_def.mp hr')
    exact htyped
  have houts := (forall₂_outs hmade).imp fun _ _ h => Made.there h
  rw [← hgrows.index] at houts
  obtain ⟨slots, t', hreturn, hgrows', hfills⟩ := start_createReturn hreturns houts
  refine ⟨others.map Prod.fst, slots, t', ?_, hgrows.trans hgrows', ?_, ?_⟩
  · rw [createOthers, Attempt.start_bind_ok hothers, hr, Attempt.start_bind_ok (Attempt.start_need_some _ _ _),
      Attempt.start_bind_ok hreturn]
    rfl
  · exact List.forall₂_map_right_iff.mpr (hmade.imp fun _ _ h => h.1.later hgrows')
  · rw [← hgrows.index]
    exact hfills.imp fun _ _ h => h.earlier hgrows

/-- **A symbol is made of each parameter, and one of each item of the result.** -/
theorem start_createSignature (s : Session) (hn : IsDescribed n)
    (hr : n.child? (core "return-value") = some r) :
    ∃ described slots t, (createSignature n).start s = (.ok (described, slots), t) ∧ Grows s t ∧
      List.Forall₂ (fun p id => Made s t id (parameterSymbol s.index p)) (describedNodes n) described ∧
      List.Forall₂ (Fills s t) (returnItems s.index r (setNodes n)) slots := by
  rw [createSignature_eq, describedNodes]
  cases hinstance : instanceNode? n with
  | none => exact start_createOthers s hn [] hr
  | some p =>
    have hp : p ∈ describedNodes n := by simp [describedNodes, hinstance]
    obtain ⟨id, t, hfirst, hgrows, hmade⟩ :=
      start_createParameter s (hn.parameterNamed p hp) (hn.parameterTyped p hp)
    obtain ⟨described, slots, t', hothers, hgrows', hmade', hfills⟩ :=
      start_createOthers t hn [id] hr
    rw [hgrows.index] at hmade' hfills
    refine ⟨id :: described, slots, t', ?_, hgrows.trans hgrows', .cons (hmade.later hgrows') ?_, ?_⟩
    · exact (Attempt.start_bind_ok hfirst).trans hothers
    · exact hmade'.imp fun _ _ h => h.earlier hgrows
    · exact hfills.imp fun _ _ h => h.earlier hgrows

end GirDoc.Gir
