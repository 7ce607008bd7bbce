import GirDoc.Proofs.C.Sight

/-!
# What the steps of a scan change

A declaration adds symbols and changes them, makes requests, quotes lines, leaves out names and is reported on.
Going through trees does that, notes what was found and which files were gone through, and nothing else. Going
through texts also makes requests for macros and adds comments.

* `Leads R m` says that the step `m` leads from every session to one that `R` relates to it, whether it succeeds
  or not.
* `Allows R` says that `R` relates a session to what each of the changes of a declaration makes of it;
  `AllowsFound`, `AllowsTrees` and `AllowsTexts` add the changes of a walk, of going through trees, and of going
  through texts. `Allows R P` takes in requests for symbols of the kinds `P` only, which are all but macros
  if nothing else is said.

So a relation is kept by all of a scan once it was looked at for each kind of change (`leads_declared`,
`leads_walk`, `leads_scanTree`, `leads_scanText`).
-/

namespace GirDoc.C

open Ast Session

variable {α β : Type} {R : Session → Session → Prop} {P : SymbolKind → Prop} {m : Doc α}

/-! ## Steps one after the other -/

/-- A step leads from every session to one that `R` relates to it. -/
def Leads (R : Session → Session → Prop) (m : Doc α) : Prop := ∀ s, R s (m.start s).2

theorem Leads.of_start {s t : Session} {r : Except Fault α} (hm : Leads R m) (h : m.start s = (r, t)) : R s t := by
  have hs := hm s
  rwa [h] at hs

/-- Whether symbols of a kind are those of macros. -/
def isMacroKind (kind : SymbolKind) : Bool := kind = .functionMacro || kind = .constant

/-- A relation takes in all that declarations change, with requests for symbols of the kinds `P`. -/
structure Allows (R : Session → Session → Prop) (P : SymbolKind → Prop := fun kind => isMacroKind kind = false) :
    Prop where
  refl (s : Session) : R s s
  trans {s t t' : Session} : R s t → R t t' → R s t'
  log (s : Session) (log : List LogEntry) : R s { s with log }
  quoted (s : Session) (quoted : List (String × List String)) : R s { s with quoted }
  leftOut (s : Session) (leftOut : List (Option String)) : R s { s with leftOut }
  add (s : Session) (x : Symbol) : R s { s with database := (s.database.add x).1 }
  change (s : Session) (id : SymbolId) (f : Symbol → Symbol) (hf : ∀ x, (f x).uniqueName = x.uniqueName) :
    R s { s with database := s.database.modify id f }
  request (s : Session) (name : String) (r : Request) (hkind : P r.kind)
    (hkey : r.key? = some (.text name)) : R s (afterRequest s name r)

/-- A relation also takes in that something was found. -/
structure AllowsFound (R : Session → Session → Prop) : Prop extends Allows R where
  found (s : Session) (found : List (String × SymbolId)) : R s { s with scanner := { s.scanner with found } }

/-- A relation also takes in which files were gone through, and that the parser library was loaded. -/
structure AllowsTrees (R : Session → Session → Prop)
    (P : SymbolKind → Prop := fun kind => isMacroKind kind = false) : Prop extends Allows R P where
  scanner (s : Session) (scanner : Scanner) : R s { s with scanner }
  library (s : Session) (library : Library.Settings) : R s { s with library }

/-- A relation also takes in what texts change: macros are requested, and comments are added. -/
structure AllowsTexts (R : Session → Session → Prop)
    (P : SymbolKind → Prop := fun kind => isMacroKind kind = false) : Prop extends Allows R P where
  requestMacro (s : Session) (name : String) (r : Request) (hkind : isMacroKind r.kind = true)
    (hkey : r.key? = some (.text name)) : R s (afterRequest s name r)
  comments (s : Session) (comments : List (String × Comment)) : R s { s with comments }

theorem AllowsTrees.allowsFound (h : AllowsTrees R) : AllowsFound R :=
  ⟨h.toAllows, fun s found => h.scanner s { s.scanner with found }⟩

section Steps

variable (h : Allows R P)

include h

theorem Allows.pure (a : α) : Leads R (pure a : Doc α) := h.refl

theorem Allows.throw (e : Fault) : Leads R (throw e : Doc α) := h.refl

theorem Allows.get : Leads R (get : Doc Session) := h.refl

theorem Allows.given : Leads R given := h.refl

theorem Allows.ofExcept (r : Except Fault α) : Leads R (Attempt.ofExcept r : Doc α) := by
  cases r with
  | ok a => exact h.pure a
  | error e => exact h.throw e

theorem Allows.need (e : Fault) (a : Option α) : Leads R (Attempt.need e a : Doc α) := by
  cases a with
  | none => exact h.throw e
  | some a => exact h.pure a

theorem Allows.bind {k : α → Doc β} (hm : Leads R m) (hk : ∀ a, Leads R (k a)) : Leads R (m >>= k) := by
  intro s
  have hs := hm s
  -- a step that fails counts too: what it leaves is what both leave
  rcases hstart : m.start s with ⟨e | a, t⟩
  · rw [Attempt.start_bind_error hstart]
    rwa [hstart] at hs
  · rw [Attempt.start_bind_ok hstart]
    rw [hstart] at hs
    exact h.trans hs (hk a t)

theorem Allows.mapM {f : α → Doc β} {items : List α} (hf : ∀ a ∈ items, Leads R (f a)) :
    Leads R (items.mapM f) := by
  induction items with
  | nil => exact h.pure _
  | cons a rest ih =>
    rw [List.mapM_cons]
    refine h.bind (hf a List.mem_cons_self) fun b => ?_
    exact h.bind (ih fun a ha => hf a (List.mem_cons_of_mem _ ha)) fun bs => h.pure _

theorem Allows.filterM {f : α → Doc Bool} {items : List α} (hf : ∀ a ∈ items, Leads R (f a)) :
    Leads R (items.filterM f) := by
  have haux (kept : List α) : Leads R (items.filterAuxM f kept) := by
    induction items generalizing kept with
    | nil => exact h.pure _
    | cons a rest ih =>
      exact h.bind (hf a List.mem_cons_self) fun b => ih (fun a ha => hf a (List.mem_cons_of_mem _ ha)) _
  exact h.bind (haux []) fun _ => h.pure _

theorem Allows.forM {f : α → Doc PUnit} {items : List α} (hf : ∀ a ∈ items, Leads R (f a)) :
    Leads R (items.forM f) := by
  induction items with
  | nil => exact h.pure _
  | cons a rest ih =>
    exact h.bind (hf a List.mem_cons_self) fun _ => ih fun a ha => hf a (List.mem_cons_of_mem _ ha)

theorem Allows.foldlM {f : β → α → Doc β} {items : List α} (hf : ∀ b, ∀ a ∈ items, Leads R (f b a))
    (b : β) : Leads R (items.foldlM f b) := by
  induction items generalizing b with
  | nil => exact h.pure _
  | cons a rest ih =>
    rw [List.foldlM_cons]
    exact h.bind (hf b a List.mem_cons_self) fun b =>
      ih (fun b a ha => hf b a (List.mem_cons_of_mem _ ha)) b

end Steps

/-! ## What all steps are made of -/

theorem leads_note (h : Allows R P) (e : LogEntry) : Leads R (note e) := fun s => h.log s _

theorem leads_addSymbol (h : Allows R P) (x : Symbol) : Leads R (addSymbol x) := fun s => h.add s x

theorem leads_changeSymbol (h : Allows R P) (id : SymbolId) {f : Symbol → Symbol}
    (hf : ∀ x, (f x).uniqueName = x.uniqueName) : Leads R (changeSymbol id f) := fun s => h.change s id f hf

theorem leads_symbol (h : Allows R P) (id : SymbolId) : Leads R (symbol id) :=
  h.bind h.get fun _ => h.need _ _

theorem leads_quotedLines (h : Allows R P) (file : String) : Leads R (quotedLines file) := by
  refine h.bind h.get fun s => ?_
  split
  · exact h.pure _
  · refine h.bind h.given fun given => ?_
    split
    · exact h.throw _
    · exact h.pure _
    · exact h.bind (fun s => h.quoted s _) fun _ => h.pure _

theorem leads_sourceLines (h : Allows R P) (d : CursorData) : Leads R (sourceLines d) := by
  unfold sourceLines
  split
  · exact h.pure _
  · exact h.bind (leads_quotedLines h _) fun _ => h.pure _

theorem leads_parseUnit (h : Allows R P) (file : String) (arguments : List String) (options : Nat) :
    Leads R (parseUnit file arguments options) :=
  h.bind (leads_note h _) fun _ => h.bind h.given fun _ => h.need _ _

theorem leads_reportDiagnostics (h : Allows R P) (u : SourceUnit) : Leads R (reportDiagnostics u) :=
  h.forM fun _ _ => h.bind (leads_note h _) fun _ => h.bind (leads_note h _) fun _ => leads_note h _

theorem leads_typedItem (h : Allows R P) (u : SourceUnit) (kind : SymbolKind) (ty : TypeRef) :
    Leads R (typedItem u kind ty) :=
  h.bind (h.ofExcept _) fun _ => leads_addSymbol h _

theorem leads_parameter (h : Allows R P) (u : SourceUnit) (node : CursorRef) :
    Leads R (parameter u node) :=
  h.bind (h.ofExcept _) fun _ => leads_addSymbol h _

/-! ## Requests -/

variable {kind : SymbolKind} {details : List Detail} {name : String}

/-- A request for introspection leads where `R` allows it, if a plain one does. -/
theorem leads_requestFiltered (h : Allows R P) (hplain : Leads R (requestPlain kind details)) :
    Leads R (requestFiltered kind details) := by
  have hmade : Leads R (do return some (← requestPlain kind details) : Doc SymbolSlot) :=
    h.bind hplain fun _ => h.pure _
  refine h.bind h.get fun s => ?_
  have hjudged (name : Option String) : Leads R (judged s kind details name) := by
    unfold judged
    cases Gir.verdict s.index s.leftOut kind name with
    | keep => exact hmade
    | drop => exact h.pure _
    | dropAlways message => exact h.bind (leads_note h _) fun _ => h.pure _
    | dropOnce message => exact h.bind (leads_note h _) fun _ => h.bind (fun s => h.leftOut s _) fun _ => h.pure _
  split
  · exact hmade
  refine h.bind (h.need _ _) fun shown => ?_
  cases shown with
  | null => exact hjudged none
  | text name => exact hjudged (some name)
  | list items => exact h.throw _
  | dict entries => exact h.throw _
  | _ => exact hmade

/-- A plain request leads where `R` allows that it is served. -/
theorem leads_requestPlain
    (hkey : Request.key? { kind, details := details ++ [.language "c"] } = some (.text name))
    (hserved : ∀ s, R s (afterRequest s name { kind, details := details ++ [.language "c"] })) :
    Leads R (requestPlain kind details) := by
  intro s
  rw [start_requestPlain_of_key s hkey]
  exact hserved s

/-- A request leads where `R` allows it, if `R` allows that the request is served. -/
theorem leads_requestOf (h : Allows R P) (owner : Owner)
    (hkey : Request.key? { kind, details := details ++ [.language "c"] } = some (.text name))
    (hserved : ∀ s, R s (afterRequest s name { kind, details := details ++ [.language "c"] })) :
    Leads R (request owner kind details) := by
  have hplain : Leads R (requestPlain kind details) := leads_requestPlain hkey hserved
  cases owner with
  | c => exact h.bind hplain fun _ => h.pure _
  | introspection => exact leads_requestFiltered h hplain

theorem leads_request (h : Allows R P) (owner : Owner) (hkind : P kind)
    (hnamed : Named details name) : Leads R (request owner kind details) :=
  leads_requestOf h owner (hnamed.key kind) fun s => h.request s name _ hkind (hnamed.key kind)

/-! ## Declarations -/

section Parts

variable (h : Allows R P) (owner : Owner) (u : SourceUnit) (node : CursorRef)

include h

theorem leads_field (hkind : P .field) (struct file : String) : Leads R (field owner u struct file node) := by
  refine h.bind (h.ofExcept _) fun _ => h.bind (h.ofExcept _) fun _ => ?_
  refine h.bind (leads_addSymbol h _) fun _ => ?_
  exact leads_request h owner hkind (named_field _ _ _ _ _)

theorem leads_publicPart : Leads R (publicPart u node) :=
  h.bind (leads_sourceLines h _) fun _ => h.bind (h.ofExcept _) fun _ => h.pure _

theorem leads_enumConstant (hkind : P .plain) : Leads R (enumConstant owner u node) := by
  refine h.bind (h.ofExcept _) fun _ => ?_
  refine h.bind (leads_request h owner hkind ⟨fun _ => rfl, fun _ => rfl⟩) fun _ => ?_
  exact h.bind (h.need _ _) fun _ => h.bind (leads_changeSymbol h _ fun _ => rfl) fun _ => h.pure _

end Parts

section Declarations

variable (h : Allows R) (owner : Owner) (u : SourceUnit) (node : CursorRef)

include h

theorem leads_function : Leads R (function owner u node) := by
  refine h.bind (leads_typedItem h u _ _) fun _ => ?_
  refine h.bind (h.mapM fun a _ => h.bind (h.need _ _) fun _ => leads_parameter h u _) fun _ => ?_
  exact leads_request h owner rfl ⟨fun _ => rfl, fun _ => rfl⟩

theorem leads_exportedVariable : Leads R (exportedVariable owner u node) := by
  refine h.bind (leads_quotedLines h _) fun _ => h.bind (leads_sourceLines h _) fun _ => ?_
  refine h.bind (leads_typedItem h u _ _) fun _ => ?_
  exact leads_request h owner rfl ⟨fun _ => rfl, fun _ => rfl⟩

theorem leads_struct (name : String) : Leads R (struct owner u node name) := by
  refine h.bind (leads_publicPart h u node) fun part => ?_
  refine h.bind (h.mapM fun c _ => leads_field h owner u c rfl _ _) fun _ => ?_
  exact leads_request h owner rfl ⟨fun _ => rfl, fun _ => rfl⟩

theorem leads_enumeration (name : String) : Leads R (enumeration owner u node name) := by
  refine h.bind (h.mapM fun c _ => leads_enumConstant h owner u c rfl) fun _ => ?_
  refine h.bind (leads_sourceLines h _) fun _ => ?_
  exact leads_request h owner rfl ⟨fun _ => rfl, fun _ => rfl⟩

theorem leads_callback : Leads R (callback owner u node) := by
  have hrequest (parameters : List SymbolId) (result : SymbolId) :
      Leads R (request owner .callback ([.parameters (parameters.map some),
        .returnValue [some result]] ++ placed (u.cursor node).spelling (u.cursor node))) :=
    leads_request h owner rfl ⟨fun _ => rfl, fun _ => rfl⟩
  unfold callback
  cases u.children node with
  | nil => exact h.bind (leads_addSymbol h _) fun _ => hrequest [] _
  | cons _ rest =>
    refine h.bind (leads_typedItem h u _ _) fun _ => ?_
    exact h.bind (h.mapM fun c _ => leads_parameter h u c) fun _ => hrequest _ _

theorem leads_otherName (sources : List String) : Leads R (otherName owner sources u node) := by
  refine h.bind (h.ofExcept _) fun _ => h.bind (leads_typedItem h u _ _) fun _ => ?_
  refine h.bind (h.ofExcept _) fun _ => ?_
  exact h.bind (leads_request h owner rfl ⟨fun _ => rfl, fun _ => rfl⟩) fun _ => h.pure _

theorem leads_typedefinition (sources : List String) :
    Leads R (typedefinition owner sources u node) := by
  have hother : Leads R (do otherName owner sources u node; return none : Doc SymbolSlot) :=
    h.bind (leads_otherName h owner u node sources) fun _ => h.pure _
  refine h.bind (h.ofExcept _) fun _ => h.bind (h.ofExcept _) fun isCallback => ?_
  split
  · exact leads_callback h owner u node
  refine h.bind (h.ofExcept _) fun declaration => ?_
  split
  · refine h.bind (h.ofExcept _) fun kind => ?_
    split
    · exact leads_struct h owner u declaration _
    split
    · exact leads_enumeration h owner u declaration _
    · exact hother
  · exact hother

theorem leads_declaredByKind (sources : List String) :
    Leads R (declaredByKind owner sources u node) := by
  refine h.bind (h.ofExcept _) fun kind => ?_
  split
  · exact leads_exportedVariable h owner u node
  split
  · exact leads_typedefinition h owner u node sources
  split
  · exact leads_struct h owner u node _
  split
  · exact leads_enumeration h owner u node _
  · exact h.pure _

theorem leads_isFound (name : String) : Leads R (isFound name) :=
  h.bind h.get fun _ => h.pure _

theorem leads_declared (sources : List String) : Leads R (declared owner sources u node) := by
  refine h.bind (h.ofExcept _) fun ofFunction => ?_
  cases ofFunction with
  | none => exact leads_declaredByKind h owner u node sources
  | some f =>
    refine h.bind (leads_isFound h _) fun found => ?_
    cases found with
    | true => exact leads_declaredByKind h owner u node sources
    | false => exact leads_function h owner u f

end Declarations

/-! ## Trees -/

section Walks

variable (h : AllowsFound R) (owner : Owner) (u : SourceUnit) (node : CursorRef) (plan : Plan)

include h

theorem leads_noteFound (slot : SymbolSlot) : Leads R (noteFound slot) := by
  cases slot with
  | none => exact h.pure _
  | some id => exact h.bind (leads_symbol h.toAllows id) fun _ s => h.found s _

theorem leads_enter : Leads R (enter owner plan u node) := by
  refine h.bind (h.ofExcept _) fun target => ?_
  cases target with
  | none => exact h.pure _
  | some node =>
    refine h.bind (leads_isFound h.toAllows _) fun found => ?_
    cases found with
    | true => exact h.pure _
    | false =>
      refine h.bind (leads_declared h.toAllows owner u node _) fun slot => ?_
      exact h.bind (leads_noteFound h slot) fun _ => h.pure _

theorem leads_walk (depth : Nat) : Leads R (walk owner plan u depth node) := by
  induction depth generalizing node with
  | zero => exact h.throw _
  | succ depth ih =>
    exact h.bind (leads_enter h owner u node plan) fun below => h.forM fun child _ => ih child

end Walks

section Trees

variable (h : AllowsTrees R) (owner : Owner) (u : SourceUnit) (plan : Plan)

include h

theorem leads_walkFile (file : String) : Leads R (walkFile owner plan u file) := by
  refine h.bind h.get fun s => ?_
  split
  · exact h.pure _
  refine h.bind (fun s => h.scanner s _) fun _ => ?_
  split
  · exact h.pure _
  refine h.bind (leads_note h.toAllows _) fun _ => ?_
  split
  · exact h.throw _
  refine h.bind h.given fun _ => h.bind (h.ofExcept _) fun _ => h.bind h.get fun s => ?_
  exact h.forM fun node _ => leads_walk h.allowsFound owner u node plan _

theorem leads_addGuarded (guarded : List String) (file : String) : Leads R (addGuarded u guarded file) := by
  intro s
  rw [addGuarded]
  cases u.knows file <;> exact h.refl s

theorem leads_scanTree (arguments guarded : List String) (file : String) :
    Leads R (scanTree owner plan arguments guarded file) := by
  refine h.bind h.get fun s => ?_
  split
  · exact h.pure _
  split
  · exact h.pure _
  refine h.bind (leads_note h.toAllows _) fun _ => h.bind (leads_parseUnit h.toAllows _ _ _) fun u => ?_
  refine h.bind (leads_reportDiagnostics h.toAllows u) fun _ => ?_
  refine h.bind (leads_walkFile h owner u plan file) fun _ => ?_
  refine h.bind (leads_addGuarded h u guarded file) fun guarded => ?_
  refine h.foldlM (fun guarded included _ => ?_) guarded
  refine h.bind (leads_addGuarded h u guarded _) fun _ => ?_
  exact h.bind (leads_walkFile h owner u plan _) fun _ => h.pure _

end Trees

section Opening

variable (h : AllowsTrees R P)

include h

theorem leads_loadLibrary : Leads R loadLibrary := by
  intro s
  rw [loadLibrary, Attempt.start_bind_ok (Attempt.start_get s)]
  cases s.library.load s.environment.host with
  | ok library => exact h.library s library
  | error e => exact h.refl s

theorem leads_compilerHeaders : Leads R compilerHeaders := by
  refine h.bind h.given fun environment => ?_
  dsimp only
  split
  · exact h.pure _
  · exact h.bind (leads_note h.toAllows _) fun _ => h.pure _

end Opening

/-! ## Texts -/

section Texts

variable (h : AllowsTexts R P) (owner : Owner) (file : String)

include h

theorem leads_requestMacro (hkind : isMacroKind kind = true) (hnamed : Named details name) :
    Leads R (request owner kind details) :=
  leads_requestOf h.toAllows owner (hnamed.key kind) fun s => h.requestMacro s name _ hkind (hnamed.key kind)

theorem leads_functionMacro (name text : String) (line : Int) :
    Leads R (functionMacro owner name file text line) := by
  have hrest (result : Option SymbolId) (comment : Option Comment) : Leads R (do
      let parameters ← (comment.elim [] Comment.params).mapM fun p =>
        addSymbol { kind := .parameter, argName := some p.1 }
      request owner .functionMacro [.returnValue [result], .parameters (parameters.map some),
        .definitionText text, .displayName (some name), .filename (some file), .line line]) := by
    refine h.bind (h.mapM fun _ _ => leads_addSymbol h.toAllows _) fun _ => ?_
    exact leads_requestMacro h owner rfl ⟨fun _ => rfl, fun _ => rfl⟩
  refine h.bind (h.bind h.get fun _ => h.pure _) fun comment => ?_
  cases comment with
  | none => exact h.bind (h.pure _) fun result => hrest result none
  | some c =>
    dsimp only
    split
    · refine h.bind (leads_addSymbol h.toAllows _) fun _ => ?_
      exact h.bind (h.pure _) fun result => hrest result (some c)
    · exact h.bind (h.pure _) fun result => hrest result (some c)

theorem leads_macroSymbol (text : String) (line : Int) : Leads R (macroSymbol owner text file line) := by
  refine h.bind (h.need _ _) fun head => ?_
  cases head with
  | function name => exact leads_functionMacro h owner file name text line
  | constant name => exact leads_requestMacro h owner rfl ⟨fun _ => rfl, fun _ => rfl⟩

theorem leads_scanComment (lines : List String) (item : Extract.Item String) :
    Leads R (scanComment file lines item) := by
  refine h.bind (h.need _ _) fun line => h.bind h.given fun _ => h.bind (leads_note h.toAllows _) fun _ => ?_
  split
  · exact h.pure _
  · exact h.bind (leads_note h.toAllows _) fun _ s => h.comments s _

theorem leads_scanItems (lines : List String) (skips : Bool) (items : List (Extract.Item String)) :
    Leads R (scanItems owner file lines skips items) := by
  induction items generalizing skips with
  | nil => exact h.pure _
  | cons item rest ih =>
    rw [scanItems]
    cases item.kind with
    | comment => exact h.bind (leads_scanComment h file lines item) fun _ => ih skips
    | definition =>
      dsimp only
      split
      · exact h.bind (leads_macroSymbol h owner file _ _) fun _ => ih false
      · exact ih false

theorem leads_scanText (guarded : List String) : Leads R (scanText owner guarded file) := by
  refine h.bind h.given fun _ => h.bind (h.ofExcept _) fun _ => h.bind (leads_note h.toAllows _) fun _ => ?_
  exact h.bind (h.need _ _) fun items => leads_scanItems h owner file _ _ items

end Texts

end GirDoc.C
