import GirDoc.Gir.Resolve
import GirDoc.Proofs.C.Changes

/-!
# What resolving a symbol changes

Resolving a symbol does to a session what a declaration does to it. It also notes the names of symbols in each
language, and adds comments. So a relation that allows these two (`AllowsMembers`) is kept by each of the steps
of resolving, whether they succeed or not.
-/

namespace GirDoc.Gir

open Session Xml

open C (Leads Allows leads_note leads_addSymbol leads_changeSymbol leads_symbol leads_requestFiltered
  leads_requestPlain)

/-- A relation also takes in that names are noted and comments are added. -/
structure AllowsMembers (R : Session → Session → Prop) : Prop extends Allows R where
  names (s : Session) (names : Names) : R s { s with names }
  comments (s : Session) (comments : List (String × Comment)) : R s { s with comments }

variable {R : Session → Session → Prop}

/-! ## Symbols -/

section Symbols

variable (h : Allows R)

include h

theorem leads_setAttribute (id : SymbolId) (key : String) (a : Attribute) : Leads R (setAttribute id key a) := by
  refine h.bind (leads_symbol h id) fun s => ?_
  split
  · exact leads_changeSymbol h id fun _ => rfl
  · exact h.throw _

theorem leads_setContent (id : SymbolId) (key : String) (v : Value) : Leads R (setContent id key v) := by
  refine h.bind (leads_symbol h id) fun s => ?_
  split
  · exact h.throw _
  · exact leads_changeSymbol h id fun _ => rfl

theorem leads_attributeOf (s : Symbol) (key : String) : Leads R (Session.attributeOf s key) := by
  unfold Session.attributeOf
  split
  · exact h.pure _
  · exact h.throw _

/-! ## Parameters -/

theorem leads_typeNow (n : Node) : Leads R (typeNow n) := h.bind h.get fun _ => h.ofExcept _

theorem leads_createParameter (n : Node) : Leads R (createParameter n) := by
  refine h.bind (h.need _ _) fun name => h.bind (leads_typeNow h n) fun _ => ?_
  exact h.bind (leads_addSymbol h _) fun _ => h.pure _

theorem leads_createReturn (n : Node) (outs : List SymbolId) : Leads R (createReturn n outs) := by
  have hothers (first : SymbolSlot) : Leads R (do
      let others ← outs.mapM fun out => do
        let s ← symbol out
        return some (← addSymbol { kind := .returnItem, tokens := s.tokens, itemName := s.argName })
      return first :: others : Doc (List SymbolSlot)) := by
    refine h.bind (h.mapM fun out _ => ?_) fun _ => h.pure _
    exact h.bind (leads_symbol h out) fun _ => h.bind (leads_addSymbol h _) fun _ => h.pure _
  refine h.bind (leads_typeNow h n) fun _ => ?_
  dsimp only
  split
  · exact hothers none
  · exact h.bind (leads_addSymbol h _) fun id => hothers (some id)

theorem leads_createSignature (n : Node) : Leads R (createSignature n) := by
  have hothers (instances : List SymbolId) : Leads R (do
      let list := n.child? (core "parameters")
      let others ← ((list.map (·.childrenOf (core "parameter"))).getD []).mapM createParameter
      let outs := (others.filter fun p => p.2 ≠ "in").map Prod.fst
      let result ← Attempt.need .noSuchPart (n.child? (core "return-value"))
      return (instances ++ others.map Prod.fst, ← createReturn result outs)) := by
    refine h.bind (h.mapM fun p _ => leads_createParameter h p) fun others => ?_
    refine h.bind (h.need _ _) fun result => h.bind (leads_createReturn h result _) fun _ => h.pure _
  unfold createSignature
  dsimp only
  split
  · next p _ => exact h.bind (leads_createParameter h p) fun p => hothers [p.1]
  · exact hothers []

theorem leads_notePassed (id : SymbolId) (parameters : List SymbolSlot) : Leads R (notePassed id parameters) := by
  refine h.bind (leads_symbol h id) fun s => h.bind (h.filterM fun slot _ => ?_) fun passed => ?_
  · refine h.bind (h.bind (h.need _ _) fun id => leads_symbol h id) fun x => ?_
    exact h.bind (leads_attributeOf h x _) fun _ => h.pure _
  · exact leads_setAttribute h id _ _

/-! ## Members -/

variable {kind : SymbolKind} {details : List Detail} {name : String}

theorem leads_requestMember (hkind : C.isMacroKind kind = false)
    (hkey : Request.key? { kind, details := details ++ [.language "c"] } = some (.text name)) :
    Leads R (requestFiltered kind details) :=
  leads_requestFiltered h (leads_requestPlain hkey fun s => h.request s name _ hkind hkey)

omit h in
/-- A member is requested by the name that it is kept under. -/
theorem key?_member (owner : Option String) {mark : String} (hmark : mark ≠ "") (name : String) {r : Request}
    (hunique : r.unique? = some (.text (memberName owner mark name))) :
    r.key? = some (.text (memberName owner mark name)) := by
  have hname : (memberName owner mark name).isEmpty = false := by
    rw [Bool.eq_false_iff, ne_eq, String.isEmpty_iff]
    intro hempty
    have hlist := congrArg String.toList hempty
    simp only [memberName, String.toList_append, String.toList_empty, List.append_eq_nil_iff] at hlist
    exact hmark (String.toList_inj.mp hlist.1.2)
  rw [Request.key?, hunique]
  simp [Option.filter, Value.truthy, hname, SymbolKey.ofValue?]

theorem leads_createSignal (owner : Option String) (n : Node) : Leads R (createSignal owner n) := by
  refine h.bind (h.need _ _) fun name => h.bind (leads_createSignature h n) fun _ => ?_
  refine h.bind (leads_requestMember h rfl (key?_member owner (by decide) name rfl)) fun slot => ?_
  refine h.bind (h.need _ _) fun id => h.bind (leads_setContent h id _ _) fun _ => ?_
  exact h.bind (leads_notePassed h id _) fun _ => h.pure _

theorem leads_createProperty (owner : Option String) (n : Node) : Leads R (createProperty owner n) := by
  refine h.bind (h.need _ _) fun name => h.bind (leads_typeNow h n) fun _ => ?_
  refine h.bind (leads_addSymbol h _) fun _ => ?_
  refine h.bind (leads_requestMember h rfl (key?_member owner (by decide) name rfl)) fun slot => ?_
  exact h.bind (h.need _ _) fun id => h.bind (leads_setContent h id _ _) fun _ => h.pure _

theorem leads_createVfunction (owner : Option String) (n : Node) : Leads R (createVfunction owner n) := by
  refine h.bind (h.need _ _) fun name => h.bind (leads_createSignature h n) fun _ => ?_
  refine h.bind (leads_requestMember h rfl (key?_member owner (by decide) name rfl)) fun slot => ?_
  exact h.bind (h.need _ _) fun id => h.bind (leads_notePassed h id _) fun _ => h.pure _

theorem leads_createClass (x : Symbol) (key : String) : Leads R (createClass x key) := by
  refine h.bind h.get fun s => h.bind (h.need _ _) fun hierarchy => ?_
  refine leads_requestMember h rfl (key?_member x.uniqueName (by decide : "::" ≠ "") (spelled x.uniqueName) ?_)
  unfold Symbol.displayDetail
  split <;> rfl

theorem leads_createInterface (x : Symbol) : Leads R (createInterface x) := by
  refine leads_requestMember h rfl (key?_member x.uniqueName (by decide : "::" ≠ "") (spelled x.uniqueName) ?_)
  unfold Symbol.displayDetail
  split <;> rfl

end Symbols

/-! ## Structures -/

theorem leads_addNames (h : AllowsMembers R) (name : String) (n : Node) : Leads R (addNames name n) :=
  h.bind (h.ofExcept _) fun _ => h.bind (fun s => h.names s _) fun _ => h.pure _

theorem leads_structComment? (h : Allows R) (n : Node) (parts : List String) :
    Leads R (structComment? n parts) := by
  unfold structComment?
  split
  · split
    · exact h.pure _
    · exact h.bind h.get fun _ => h.pure _
  · exact h.pure _

theorem leads_inheritComment (h : AllowsMembers R) (parent : Option Comment) (id : SymbolId) (name : String) :
    Leads R (inheritComment parent id name) := by
  unfold inheritComment
  split
  · exact h.pure _
  · split
    · exact h.pure _
    · refine h.bind (leads_symbol h.toAllows id) fun x => ?_
      exact h.bind (leads_note h.toAllows _) fun _ s => h.comments s _

end GirDoc.Gir
