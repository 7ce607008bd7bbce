import GirDoc.Proofs.C.Schedule
import GirDoc.Proofs.C.Walk

/-!
# What is asked for a declaration

A node that declares something gets a symbol by a request, which is the last that is done for it. The symbol of another
name for a type is requested too, but nothing is given for it.

* `requested` are the requests for symbols of declarations so far. Nothing but the makers of these symbols adds to them
  (`allowsTexts_ledger`), and each maker asks for one symbol, in the end (`EndsInRequest`).
* `Declares` says what a node declares of which a symbol is given, and under which name, and `isOtherName` whether it
  declares another name for a type.
* `Upshot` says what can come of making the symbol of a node (`upshot_declared`). What a node declares under a name
  that was not found is always asked for (`Declares.answered`).
-/

namespace GirDoc.C

open Ast Session

/-! ## Requests for declarations -/

/-- The kinds of the symbols of declarations. -/
def declarationKinds : List SymbolKind :=
  [.function, .exportedVariable, .struct, .enumeration, .callback, .otherName]

/-- The symbols of declarations that were requested so far, each by its kind and its key. -/
def requested (s : Session) : List (SymbolKind × Option SymbolKey) :=
  (s.requests.filter (·.kind ∈ declarationKinds)).map fun r => (r.kind, r.key?)

/-- The symbols of declarations that were requested so far, and whether symbols are left out. -/
def ledger (s : Session) : List (SymbolKind × Option SymbolKey) × Bool := (requested s, s.leavesOut)

section Ledger

variable {s t : Session} {name : String} {r : Request}

theorem ledger_afterRequest (h : r.kind ∈ declarationKinds) :
    ledger (afterRequest s name r) = (requested s ++ [(r.kind, r.key?)], s.leavesOut) := by
  rw [ledger, requested, afterRequest, List.filter_append, List.filter_singleton, decide_eq_true h, List.map_append]
  rfl

theorem ledger_afterRequest_of_not_mem (h : r.kind ∉ declarationKinds) : ledger (afterRequest s name r) = ledger s := by
  rw [ledger, requested, afterRequest, List.filter_append, List.filter_singleton, decide_eq_false h]
  exact congrArg (fun rs => (List.map (fun r : Request => (r.kind, r.key?)) rs, s.leavesOut)) (List.append_nil _)

/-- Nothing but the symbols of declarations counts. -/
theorem allowsTexts_ledger : AllowsTexts (fun s t => ledger t = ledger s) (· ∉ declarationKinds) where
  refl _ := rfl
  trans h h' := h'.trans h
  log _ _ := rfl
  quoted _ _ := rfl
  leftOut _ _ := rfl
  add _ _ := rfl
  change _ _ _ _ := rfl
  request _ _ _ hkind _ := ledger_afterRequest_of_not_mem hkind
  requestMacro _ _ r hkind _ := by
    refine ledger_afterRequest_of_not_mem fun hmem => ?_
    revert hkind hmem
    cases r.kind <;> decide
  comments _ _ := rfl

theorem allowsTrees_ledger : AllowsTrees (fun s t => ledger t = ledger s) (· ∉ declarationKinds) where
  toAllows := allowsTexts_ledger.toAllows
  scanner _ _ := rfl
  library _ _ := rfl

end Ledger

/-! ## Declarations -/

/-- What a node declares of which a symbol is given, and the name of that. -/
inductive Declares (u : SourceUnit) (node : CursorRef) : SymbolKind → String → Prop where
  | function {f : CursorRef} (h : functionNode? u node = .ok (some f)) :
    Declares u node .function (u.cursor f).spelling
  | exportedVariable (hkind : u.cursorKind node = .ok varDecl) :
    Declares u node .exportedVariable (u.cursor node).spelling
  | callback {type : TypeRef} (hkind : u.cursorKind node = .ok typedefDecl)
    (htype : u.underlyingType node = .ok type) (hpointer : u.isFunctionPointer type = .ok true) :
    Declares u node .callback (u.cursor node).spelling
  | struct (hkind : u.cursorKind node = .ok structDecl) (hname : (u.cursor node).spelling ≠ "") :
    Declares u node .struct (u.cursor node).spelling
  | enumeration (hkind : u.cursorKind node = .ok enumDecl) (hname : (u.cursor node).spelling ≠ "") :
    Declares u node .enumeration (u.cursor node).spelling
  /-- A structure without a name of its own has that of its type definition. -/
  | namedStruct {type : TypeRef} {declaration : CursorRef} (hkind : u.cursorKind node = .ok typedefDecl)
    (htype : u.underlyingType node = .ok type) (hpointer : u.isFunctionPointer type = .ok false)
    (hdeclaration : u.declaration type = .ok declaration) (hname : (u.cursor declaration).spelling = "")
    (hstruct : u.cursorKind declaration = .ok structDecl) : Declares u node .struct (u.cursor node).spelling
  | namedEnumeration {type : TypeRef} {declaration : CursorRef} (hkind : u.cursorKind node = .ok typedefDecl)
    (htype : u.underlyingType node = .ok type) (hpointer : u.isFunctionPointer type = .ok false)
    (hdeclaration : u.declaration type = .ok declaration) (hname : (u.cursor declaration).spelling = "")
    (henum : u.cursorKind declaration = .ok enumDecl) : Declares u node .enumeration (u.cursor node).spelling

/-! ## The makers of symbols -/

/-- A request for a symbol of a kind and a name was answered, which led to the session `t`. -/
def Answered (owner : Owner) (kind : SymbolKind) (name : String) (slot : SymbolSlot) (t : Session) : Prop :=
  ∃ details s, Named details name ∧ (request owner kind details).start s = (.ok slot, t)

/-- A step fails with nothing asked for, or the last that it does is a request for a symbol of a kind and a name, which
gives the answer. -/
def EndsInRequest (owner : Owner) (kind : SymbolKind) (name : String) (m : Doc SymbolSlot) : Prop :=
  ∀ s, (∃ e t, m.start s = (.error e, t) ∧ ledger t = ledger s) ∨
    ∃ details t, Named details name ∧ ledger t = ledger s ∧ m.start s = (request owner kind details).start t

section Requests

variable {owner : Owner} {kind : SymbolKind} {name : String} {s t : Session} {id : SymbolId}
  {u : SourceUnit} {node : CursorRef}

/-- A symbol that a request gives has the name that was asked for. -/
theorem Answered.hasName (h : Answered owner kind name (some id) t) : HasName t id name := by
  obtain ⟨details, s, hnamed, h⟩ := h
  obtain ⟨id', hstart, hid'⟩ := start_requestPlain s kind hnamed
  have hplain (h : (requestPlain kind details).start s = (.ok id, t)) : HasName t id name := by
    cases hstart.symm.trans h
    exact hid'
  cases owner with
  | c =>
    obtain ⟨_, _, hmade, h⟩ := Attempt.start_bind_eq_ok h
    cases h
    exact hplain hmade
  | introspection => exact hplain (start_requestPlain_of_filtered h)

theorem EndsInRequest.answered {m : Doc SymbolSlot} {slot : SymbolSlot} (h : EndsInRequest owner kind name m)
    (hstart : m.start s = (.ok slot, t)) : Answered owner kind name slot t := by
  rcases h s with ⟨e, t', hfail, -⟩ | ⟨details, t', hnamed, -, hrequest⟩
  · cases hfail.symm.trans hstart
  · exact ⟨details, t', hnamed, hrequest.symm.trans hstart⟩

theorem endsInRequest_request {details : List Detail} (hnamed : Named details name) :
    EndsInRequest owner kind name (request owner kind details) :=
  fun s => Or.inr ⟨details, s, hnamed, rfl, rfl⟩

theorem EndsInRequest.bind {α : Type} {m : Doc α} {k : α → Doc SymbolSlot}
    (hm : Leads (fun s t => ledger t = ledger s) m) (hk : ∀ a, EndsInRequest owner kind name (k a)) :
    EndsInRequest owner kind name (m >>= k) := by
  intro s
  rcases hstart : m.start s with ⟨e | a, t⟩
  · exact Or.inl ⟨e, t, Attempt.start_bind_error hstart, hm.of_start hstart⟩
  · have ht := hm.of_start hstart
    rw [Attempt.start_bind_ok hstart]
    rcases hk a t with ⟨e, t', hfail, ht'⟩ | ⟨details, t', hnamed, ht', hrequest⟩
    · exact Or.inl ⟨e, t', hfail, ht'.trans ht⟩
    · exact Or.inr ⟨details, t', hnamed, ht'.trans ht, hrequest⟩

theorem endsInRequest_function : EndsInRequest owner .function (u.cursor node).spelling (function owner u node) := by
  have h := allowsTexts_ledger.toAllows
  refine .bind (leads_typedItem h u _ _) fun _ => ?_
  refine .bind (h.mapM fun a _ => h.bind (h.need _ _) fun _ => leads_parameter h u _) fun _ => ?_
  exact endsInRequest_request ⟨fun _ => rfl, fun _ => rfl⟩

theorem endsInRequest_exportedVariable :
    EndsInRequest owner .exportedVariable (u.cursor node).spelling (exportedVariable owner u node) := by
  have h := allowsTexts_ledger.toAllows
  refine .bind (leads_quotedLines h _) fun _ => .bind (leads_sourceLines h _) fun _ => ?_
  refine .bind (leads_typedItem h u _ _) fun _ => ?_
  exact endsInRequest_request ⟨fun _ => rfl, fun _ => rfl⟩

theorem endsInRequest_struct : EndsInRequest owner .struct name (struct owner u node name) := by
  have h := allowsTexts_ledger.toAllows
  refine .bind (leads_publicPart h u node) fun part => ?_
  refine .bind (h.mapM fun c _ => leads_field h owner u c (by decide) _ _) fun _ => ?_
  exact endsInRequest_request ⟨fun _ => rfl, fun _ => rfl⟩

theorem endsInRequest_enumeration : EndsInRequest owner .enumeration name (enumeration owner u node name) := by
  have h := allowsTexts_ledger.toAllows
  refine .bind (h.mapM fun c _ => leads_enumConstant h owner u c (by decide)) fun _ => ?_
  refine .bind (leads_sourceLines h _) fun _ => ?_
  exact endsInRequest_request ⟨fun _ => rfl, fun _ => rfl⟩

theorem endsInRequest_callback : EndsInRequest owner .callback (u.cursor node).spelling (callback owner u node) := by
  have h := allowsTexts_ledger.toAllows
  have hrequest (parameters : List SymbolId) (result : SymbolId) :
      EndsInRequest owner .callback (u.cursor node).spelling (request owner .callback
        ([.parameters (parameters.map some), .returnValue [some result]] ++
          placed (u.cursor node).spelling (u.cursor node))) :=
    endsInRequest_request ⟨fun _ => rfl, fun _ => rfl⟩
  unfold callback
  cases u.children node with
  | nil => exact .bind (leads_addSymbol h _) fun _ => hrequest [] _
  | cons _ rest =>
    refine .bind (leads_typedItem h u _ _) fun _ => ?_
    exact .bind (h.mapM fun c _ => leads_parameter h u c) fun _ => hrequest _ _

/-! ## Other names -/

/-- Whether a declaration is that of a structure or an enumeration without a name of its own. -/
def isUnnamed (u : SourceUnit) (declaration : CursorRef) : Except Fault Bool :=
  if (u.cursor declaration).spelling.isEmpty then
    (u.cursorKind declaration).map fun kind => kind = structDecl || kind = enumDecl
  else .ok false

/-- Whether a node declares another name for a type, which can be written. -/
def isOtherName (u : SourceUnit) (node : CursorRef) : Except Fault Bool := do
  let kind ← u.cursorKind node
  let type ← u.underlyingType node
  let isPointer ← u.isFunctionPointer type
  let declaration ← u.declaration type
  let isUnnamed ← isUnnamed u declaration
  let _ ← TypeName.tokens u type
  return kind = typedefDecl && !isPointer && !isUnnamed

theorem isOtherName_eq_true_iff : isOtherName u node = .ok true ↔ u.cursorKind node = .ok typedefDecl ∧
    ∃ type declaration tokens, u.underlyingType node = .ok type ∧ u.isFunctionPointer type = .ok false ∧
      u.declaration type = .ok declaration ∧ isUnnamed u declaration = .ok false ∧
      TypeName.tokens u type = .ok tokens := by
  constructor
  · intro h
    obtain ⟨kind, hkind, h⟩ := Attempt.exists_of_bind_eq_ok h
    obtain ⟨type, htype, h⟩ := Attempt.exists_of_bind_eq_ok h
    obtain ⟨isPointer, hpointer, h⟩ := Attempt.exists_of_bind_eq_ok h
    obtain ⟨declaration, hdeclaration, h⟩ := Attempt.exists_of_bind_eq_ok h
    obtain ⟨unnamed, hunnamed, h⟩ := Attempt.exists_of_bind_eq_ok h
    obtain ⟨tokens, htokens, h⟩ := Attempt.exists_of_bind_eq_ok h
    have hall : (kind = typedefDecl && !isPointer && !unnamed) = true := Except.ok.inj h
    simp only [Bool.and_eq_true, decide_eq_true_eq, Bool.not_eq_true'] at hall
    obtain ⟨⟨rfl, rfl⟩, rfl⟩ := hall
    exact ⟨hkind, type, declaration, tokens, htype, hpointer, hdeclaration, hunnamed, htokens⟩
  · rintro ⟨hkind, type, declaration, tokens, htype, hpointer, hdeclaration, hunnamed, htokens⟩
    rw [isOtherName, hkind, htype]
    show (u.isFunctionPointer type >>= _) = _
    rw [hpointer]
    show (u.declaration type >>= _) = _
    rw [hdeclaration]
    show (isUnnamed u declaration >>= _) = _
    rw [hunnamed, htokens]
    rfl

section OtherNames

variable {type : TypeRef} {declaration : CursorRef}

theorem isFunctionPointer_of_isOtherName (h : isOtherName u node = .ok true) (htype : u.underlyingType node = .ok type) :
    u.isFunctionPointer type = .ok false := by
  obtain ⟨-, type', _, _, htype', hpointer, -⟩ := isOtherName_eq_true_iff.mp h
  cases htype.symm.trans htype'
  exact hpointer

theorem isUnnamed_of_isOtherName (h : isOtherName u node = .ok true) (htype : u.underlyingType node = .ok type)
    (hdeclaration : u.declaration type = .ok declaration) : isUnnamed u declaration = .ok false := by
  obtain ⟨-, type', declaration', _, htype', -, hdeclaration', hunnamed, -⟩ := isOtherName_eq_true_iff.mp h
  cases htype.symm.trans htype'
  cases hdeclaration.symm.trans hdeclaration'
  exact hunnamed

theorem isUnnamed_of_empty {kind : Nat} (hname : (u.cursor declaration).spelling.isEmpty = true)
    (hkind : u.cursorKind declaration = .ok kind) :
    isUnnamed u declaration = .ok (kind = structDecl || kind = enumDecl) := by
  rw [isUnnamed, if_pos hname, hkind]
  rfl

end OtherNames

/-! ## What is asked for a node -/

variable {sources : List String} {α : Type}

/-- What can come of making the symbol of a node: it fails or there is nothing to make, with nothing asked for; the
answer to a request for what the node declares; or nothing, after a request for another name. -/
inductive Upshot (owner : Owner) (u : SourceUnit) (node : CursorRef) (s : Session) :
    Except Fault SymbolSlot × Session → Prop where
  | failure {e : Fault} {t : Session} (hother : isOtherName u node ≠ .ok true) (ht : ledger t = ledger s) :
    Upshot owner u node s (.error e, t)
  | nothing (hother : isOtherName u node ≠ .ok true) : Upshot owner u node s (.ok none, s)
  | answer {kind : SymbolKind} {name : String} {details : List Detail} {t : Session}
    (hother : isOtherName u node ≠ .ok true) (hdeclares : Declares u node kind name) (hnew : name ∉ names s)
    (hnamed : Named details name) (ht : ledger t = ledger s) :
    Upshot owner u node s ((request owner kind details).start t)
  | otherName {details : List Detail} {t : Session} (hother : isOtherName u node = .ok true)
    (hnamed : Named details (u.cursor node).spelling) (ht : ledger t = ledger s) :
    Upshot owner u node s (Attempt.start (do let _ ← request owner .otherName details; return none) t)

theorem EndsInRequest.upshot {m : Doc SymbolSlot} (h : EndsInRequest owner kind name m)
    (hother : isOtherName u node ≠ .ok true) (hdeclares : Declares u node kind name) (hnew : name ∉ names s) :
    Upshot owner u node s (m.start s) := by
  rcases h s with ⟨e, t, hfail, ht⟩ | ⟨details, t, hnamed, ht, hrequest⟩
  · rw [hfail]
    exact .failure hother ht
  · rw [hrequest]
    exact .answer hother hdeclares hnew hnamed ht

theorem upshot_ofExcept_bind {r : Except Fault α} {k : α → Doc SymbolSlot}
    (herror : ∀ e, r = .error e → isOtherName u node ≠ .ok true)
    (hk : ∀ a, r = .ok a → Upshot owner u node s ((k a).start s)) :
    Upshot owner u node s ((Attempt.ofExcept r >>= k).start s) := by
  cases r with
  | error e => exact .failure (herror e rfl) rfl
  | ok a => exact hk a rfl

/-- The symbol of another name is asked for, and nothing is given for it. -/
theorem upshot_otherName {type : TypeRef} {declaration : CursorRef}
    (hkind : u.cursorKind node = .ok typedefDecl) (htype : u.underlyingType node = .ok type)
    (hpointer : u.isFunctionPointer type = .ok false) (hdeclaration : u.declaration type = .ok declaration)
    (hunnamed : isUnnamed u declaration = .ok false) :
    Upshot owner u node s (Attempt.start (do otherName owner sources u node; return none : Doc SymbolSlot) s) := by
  cases htokens : TypeName.tokens u type with
  | error e =>
    have hstart : (otherName owner sources u node).start s = (.error e, s) := by
      rw [otherName, htype]
      show Attempt.start (typedItem u .qualified type >>= _) s = _
      rw [typedItem, typeTokens, htokens]
      rfl
    rw [Attempt.start_bind_error hstart]
    refine .failure (fun hother => ?_) rfl
    obtain ⟨-, type', _, _, htype', -, -, -, htokens'⟩ := isOtherName_eq_true_iff.mp hother
    cases htype.symm.trans htype'
    cases htokens.symm.trans htokens'
  | ok tokens =>
    have hother : isOtherName u node = .ok true :=
      isOtherName_eq_true_iff.mpr ⟨hkind, type, declaration, tokens, htype, hpointer, hdeclaration, hunnamed, htokens⟩
    obtain ⟨item, t, hitem, ht⟩ : ∃ item t, (typedItem u .qualified type).start s = (.ok item, t) ∧
        ledger t = ledger s := by
      rw [typedItem, typeTokens, htokens]
      exact ⟨_, _, rfl, rfl⟩
    have hrequest (extra : List (String × Value)) : Upshot owner u node s (Attempt.start (do
        let _ ← request owner .otherName
          ([.aliasedType item] ++ placed (u.cursor node).spelling (u.cursor node) ++ [.extra extra])
        return none) t) := .otherName hother ⟨fun _ => rfl, fun _ => rfl⟩ ht
    rw [otherName, htype, bind_assoc]
    show Upshot owner u node s (Attempt.start ((typedItem u .qualified type >>= _) >>= _) s)
    rw [bind_assoc, Attempt.start_bind_ok hitem, hdeclaration]
    simp only [Attempt.ofExcept, bind_assoc, pure_bind]
    exact hrequest _

theorem upshot_typedefinition (hkind : u.cursorKind node = .ok typedefDecl)
    (hnew : (u.cursor node).spelling ∉ names s) :
    Upshot owner u node s ((typedefinition owner sources u node).start s) := by
  rw [typedefinition]
  refine upshot_ofExcept_bind (fun e he hother => ?_) fun type htype => ?_
  · obtain ⟨-, type, _, _, htype, -⟩ := isOtherName_eq_true_iff.mp hother
    cases he.symm.trans htype
  refine upshot_ofExcept_bind (fun e he hother => ?_) fun isPointer hpointer => ?_
  · cases he.symm.trans (isFunctionPointer_of_isOtherName hother htype)
  cases isPointer with
  | true =>
    refine endsInRequest_callback.upshot (fun hother => ?_) (.callback hkind htype hpointer) hnew
    cases hpointer.symm.trans (isFunctionPointer_of_isOtherName hother htype)
  | false =>
    refine upshot_ofExcept_bind (fun e he hother => ?_) fun declaration hdeclaration => ?_
    · obtain ⟨-, type', declaration, _, htype', -, hdeclaration, -⟩ := isOtherName_eq_true_iff.mp hother
      cases htype.symm.trans htype'
      cases he.symm.trans hdeclaration
    -- structures and enumerations without a name take that of the node, all other types get another name
    have hnamed := fun hother => isUnnamed_of_isOtherName hother htype hdeclaration
    by_cases hempty : (u.cursor declaration).spelling.isEmpty = true
    · have hname : (u.cursor declaration).spelling = "" := by simpa using hempty
      rw [if_pos hempty]
      refine upshot_ofExcept_bind (fun e he hother => ?_) fun kind hof => ?_
      · have hunnamed := hnamed hother
        rw [isUnnamed, if_pos hempty, he] at hunnamed
        cases hunnamed
      rw [isUnnamed_of_empty hempty hof] at hnamed
      by_cases hstruct : kind = structDecl
      · subst hstruct
        rw [if_pos rfl]
        refine endsInRequest_struct.upshot (fun hother => ?_)
          (.namedStruct hkind htype hpointer hdeclaration hname hof) hnew
        cases hnamed hother
      by_cases henum : kind = enumDecl
      · subst henum
        rw [if_neg hstruct, if_pos rfl]
        refine endsInRequest_enumeration.upshot (fun hother => ?_)
          (.namedEnumeration hkind htype hpointer hdeclaration hname hof) hnew
        cases hnamed hother
      · rw [if_neg hstruct, if_neg henum]
        refine upshot_otherName hkind htype hpointer hdeclaration ?_
        rw [isUnnamed_of_empty hempty hof, decide_eq_false hstruct, decide_eq_false henum]
        rfl
    · rw [if_neg hempty]
      exact upshot_otherName hkind htype hpointer hdeclaration (if_neg hempty)

theorem upshot_declaredByKind (hnew : (u.cursor node).spelling ∉ names s) :
    Upshot owner u node s ((declaredByKind owner sources u node).start s) := by
  rw [declaredByKind]
  refine upshot_ofExcept_bind (fun e he hother => ?_) fun kind hkind => ?_
  · cases he.symm.trans (isOtherName_eq_true_iff.mp hother).1
  by_cases htypedef : kind = typedefDecl
  · subst htypedef
    rw [if_neg (by decide), if_pos rfl]
    exact upshot_typedefinition hkind hnew
  have hother : isOtherName u node ≠ .ok true := by
    intro hother
    cases hkind.symm.trans (isOtherName_eq_true_iff.mp hother).1
    exact htypedef rfl
  rw [if_neg htypedef]
  split
  · next hvar =>
    subst hvar
    exact endsInRequest_exportedVariable.upshot hother (.exportedVariable hkind) hnew
  split
  · next hstruct =>
    simp only [Bool.and_eq_true, decide_eq_true_iff, Bool.not_eq_true'] at hstruct
    exact endsInRequest_struct.upshot hother (.struct (hstruct.1 ▸ hkind) (by simpa using hstruct.2)) hnew
  split
  · next henum =>
    simp only [Bool.and_eq_true, decide_eq_true_iff, Bool.not_eq_true'] at henum
    exact endsInRequest_enumeration.upshot hother (.enumeration (henum.1 ▸ hkind) (by simpa using henum.2)) hnew
  · exact .nothing hother

/-- **What can come of making the symbol of a node**, if its name was not found. -/
theorem upshot_declared (hnew : (u.cursor node).spelling ∉ names s) :
    Upshot owner u node s ((declared owner sources u node).start s) := by
  have hnone : isOtherName u node = .ok true → functionNode? u node = .ok none := fun hother =>
    functionNode?_eq_none (isOtherName_eq_true_iff.mp hother).1 (by decide) (by decide)
  rw [declared]
  refine upshot_ofExcept_bind (fun e he hother => ?_) fun ofFunction hfunction => ?_
  · cases he.symm.trans (hnone hother)
  cases ofFunction with
  | none => exact upshot_declaredByKind hnew
  | some f =>
    simp only [Attempt.start_bind_ok (start_isFound s _)]
    by_cases hfound : (u.cursor f).spelling ∈ names s
    · rw [if_pos (decide_eq_true hfound)]
      exact upshot_declaredByKind hnew
    · rw [if_neg (by simpa using hfound)]
      refine endsInRequest_function.upshot (fun hother => ?_) (.function hfunction) hfound
      cases hfunction.symm.trans (hnone hother)

/-- **A node that gets a symbol declares something of a name that was not found.** -/
theorem declares_of_declared (h : (declared owner sources u node).start s = (.ok (some id), t))
    (hnew : (u.cursor node).spelling ∉ names s) : ∃ kind name, Declares u node kind name ∧ name ∉ names s := by
  have hupshot : Upshot owner u node s ((declared owner sources u node).start s) := upshot_declared hnew
  generalize hr : (declared owner sources u node).start s = r at hupshot
  cases hupshot with
  | failure | nothing => cases hr.symm.trans h
  | answer _ hdeclares hfresh => exact ⟨_, _, hdeclares, hfresh⟩
  | otherName =>
    obtain ⟨_, t₁, -, hnone⟩ := Attempt.start_bind_eq_ok (hr.symm.trans h)
    cases hnone

theorem declared_eq_declaredByKind {kind : Nat} (hkind : u.cursorKind node = .ok kind)
    (hfunction : kind ≠ functionDecl) (hbody : kind ≠ compoundStmt) :
    declared owner sources u node = declaredByKind owner sources u node := by
  rw [declared, functionNode?_eq_none hkind hfunction hbody]
  rfl

theorem declared_typedefinition (hkind : u.cursorKind node = .ok typedefDecl) :
    declared owner sources u node = typedefinition owner sources u node := by
  rw [declared_eq_declaredByKind hkind (by decide) (by decide), declaredByKind, hkind]
  rfl

theorem typedefinition_unnamed {type : TypeRef} {declaration : CursorRef} {kind : Nat}
    (htype : u.underlyingType node = .ok type) (hpointer : u.isFunctionPointer type = .ok false)
    (hdeclaration : u.declaration type = .ok declaration) (hname : (u.cursor declaration).spelling = "")
    (hkind : u.cursorKind declaration = .ok kind) : typedefinition owner sources u node =
      (if kind = structDecl then struct owner u declaration (u.cursor node).spelling
      else if kind = enumDecl then enumeration owner u declaration (u.cursor node).spelling
      else do otherName owner sources u node; return none) := by
  have hempty : (u.cursor declaration).spelling.isEmpty = true := by simpa using hname
  rw [typedefinition, htype]
  show Attempt.ofExcept (u.isFunctionPointer type) >>= _ = _
  rw [hpointer]
  show Attempt.ofExcept (u.declaration type) >>= _ = _
  rw [hdeclaration]
  show (if (u.cursor declaration).spelling.isEmpty = true then _ else _) = _
  rw [if_pos hempty, hkind]
  rfl

/-- **A declaration of a name that was not found is asked for under that name.** -/
theorem Declares.answered {slot : SymbolSlot} (h : Declares u node kind name) (hnew : name ∉ names s)
    (hstart : (declared owner sources u node).start s = (.ok slot, t)) : Answered owner kind name slot t := by
  cases h with
  | @function f hfunction =>
    rw [declared, hfunction, Attempt.start_bind_ok (Attempt.start_ofExcept (.ok (some f)) s)] at hstart
    simp only [Attempt.start_bind_ok (start_isFound s _), decide_eq_false hnew] at hstart
    exact endsInRequest_function.answered hstart
  | exportedVariable hkind =>
    rw [declared_eq_declaredByKind hkind (by decide) (by decide), declaredByKind, hkind] at hstart
    exact endsInRequest_exportedVariable.answered hstart
  | callback hkind htype hpointer =>
    rw [declared_typedefinition hkind, typedefinition, htype,
      Attempt.start_bind_ok (Attempt.start_ofExcept (.ok _) s), hpointer] at hstart
    exact endsInRequest_callback.answered hstart
  | struct hkind hname =>
    rw [declared_struct sources hkind hname] at hstart
    exact endsInRequest_struct.answered hstart
  | enumeration hkind hname =>
    have hempty : (u.cursor node).spelling.isEmpty = false := by simpa using hname
    rw [declared_eq_declaredByKind hkind (by decide) (by decide), declaredByKind, hkind, hempty] at hstart
    exact endsInRequest_enumeration.answered hstart
  | namedStruct hkind htype hpointer hdeclaration hname hstruct =>
    rw [declared_typedefinition hkind, typedefinition_unnamed htype hpointer hdeclaration hname hstruct,
      if_pos rfl] at hstart
    exact endsInRequest_struct.answered hstart
  | namedEnumeration hkind htype hpointer hdeclaration hname henum =>
    rw [declared_typedefinition hkind, typedefinition_unnamed htype hpointer hdeclaration hname henum,
      if_neg (by decide), if_pos rfl] at hstart
    exact endsInRequest_enumeration.answered hstart

end Requests

end GirDoc.C
