import GirDoc.Proofs.C.MacroName
import GirDoc.Proofs.C.Trees

/-!
# The macros of a scan

A scan asks for one macro for each definition in a header, in order, but not for the first one of a header that
is guarded; the comments that it reads are the same, guarded or not. The main statement is
`scan_asks_for_macros`.

* `Asks owner s asked t` says what was asked for on the way from session `s` to session `t`: the requests that
  are served are added to those made before, and what is served stays the same.
* `SameComments s t` says that two sessions know the same comments, and their logs tell the same of comments.

The names that are left out can grow while macros are asked for. That changes nothing, since a name is left out
only if no macro of that name was served before.
-/

namespace GirDoc.C

open Extract Session

/-! ## Requests that are served -/

/-- Whether a request is served: introspection may leave it out. -/
def isServed : Owner → Session → Request → Bool
  | .c, _, _ => true
  | .introspection, s, r =>
    !s.leavesOut || match r.display? with
      | some (.text name) => decide (Gir.verdict s.index s.leftOut r.kind (some name) = .keep)
      | _ => true

variable {owner : Owner} {s t : Session} {kind : SymbolKind} {name : String}

theorem isServed_congr {r : Request} (hleaves : t.leavesOut = s.leavesOut) (hindex : t.index = s.index)
    (hleft : t.leftOut = s.leftOut) : isServed owner t r = isServed owner s r := by
  cases owner with
  | c => rfl
  | introspection => rw [isServed, isServed, hleaves, hindex, hleft]

theorem verdict_eq_keep_iff {x : Gir.Index} {leftOut : List (Option String)} {name : Option String} :
    Gir.verdict x leftOut kind name = .keep ↔ name ∉ leftOut ∧ Gir.freshVerdict x kind name = .keep := by
  unfold Gir.verdict
  split
  · next hmem => simp [hmem]
  · next hmem => simp [hmem]

/-- The verdict is the same on all macros of a name. -/
theorem freshVerdict_of_isMacroKind (x : Gir.Index) (hkind : isMacroKind kind = true) (name : String) :
    Gir.freshVerdict x kind (some name) = Gir.freshVerdict x .constant (some name) := by
  rcases (by simpa [isMacroKind] using hkind : kind = .functionMacro ∨ kind = .constant) with rfl | rfl
  · rfl
  · rfl

/-- Leaving out a macro for good changes nothing: it was not served before. -/
theorem isServed_leaveOut {message : String} (hkind : isMacroKind kind = true)
    (h : Gir.verdict s.index s.leftOut kind (some name) = .dropOnce message) (r : Request)
    (hr : isMacroKind r.kind = true) :
    isServed owner (leaveOut s message (some name)) r = isServed owner s r := by
  cases owner with
  | c => rfl
  | introspection =>
    have hfresh : Gir.freshVerdict s.index kind (some name) ≠ .keep := by
      intro hkeep
      rw [Gir.verdict] at h
      split at h
      · cases h
      · cases hkeep.symm.trans h
    rw [isServed, isServed]
    congr 1
    split
    · next name' _ =>
      rw [decide_eq_decide, verdict_eq_keep_iff, verdict_eq_keep_iff]
      show some name' ∉ Gir.insertNew s.leftOut (some name) ∧ _ ↔ _
      rw [Gir.mem_insertNew, not_or, and_assoc, and_congr_right_iff]
      intro _
      -- the name just left out was not served before, under either kind of macro
      refine and_iff_right_of_imp fun hkeep hname => hfresh ?_
      obtain rfl : name' = name := Option.some.inj hname
      rw [freshVerdict_of_isMacroKind _ hkind, ← freshVerdict_of_isMacroKind _ hr]
      exact hkeep
    · rfl

/-! ## What is asked for on the way from one session to another -/

/-- Macros were asked for on the way from one session to another. -/
structure Asks (owner : Owner) (s : Session) (asked : List Request) (t : Session) : Prop where
  environment : t.environment = s.environment
  kind : ∀ r ∈ asked, isMacroKind r.kind = true
  served : ∀ r, isMacroKind r.kind = true → isServed owner t r = isServed owner s r
  requests : macroRequests t = macroRequests s ++ asked.filter (isServed owner s)

/-- Nothing was asked for. -/
theorem asks_nil (henvironment : t.environment = s.environment)
    (hserved : ∀ r, isMacroKind r.kind = true → isServed owner t r = isServed owner s r)
    (hrequests : t.requests = s.requests) : Asks owner s [] t where
  environment := henvironment
  kind _ hr := (List.not_mem_nil hr).elim
  served := hserved
  requests := by rw [macroRequests, hrequests, List.filter_nil, List.append_nil, macroRequests]

theorem Asks.trans {t' : Session} {asked asked' : List Request} (h : Asks owner s asked t)
    (h' : Asks owner t asked' t') : Asks owner s (asked ++ asked') t' where
  environment := h'.environment.trans h.environment
  kind r hr := (List.mem_append.mp hr).elim (h.kind r) (h'.kind r)
  served r hr := (h'.served r hr).trans (h.served r hr)
  requests := by
    have hsame : asked'.filter (isServed owner t) = asked'.filter (isServed owner s) :=
      List.filter_congr fun r hr => h.served r (h'.kind r hr)
    rw [h'.requests, h.requests, hsame, List.filter_append, List.append_assoc]

/-- Whether an entry of the log tells of comments. -/
def tellsOfComment : LogEntry → Bool
  | .readComment .. => true
  | .addComment .. => true
  | _ => false

/-- Two sessions were given the same, know the same comments, and their logs tell the same of comments. -/
structure SameComments (s t : Session) : Prop where
  environment : s.environment = t.environment
  comments : s.comments = t.comments
  log : s.log.filter tellsOfComment = t.log.filter tellsOfComment

theorem SameComments.refl (s : Session) : SameComments s s := ⟨rfl, rfl, rfl⟩

theorem SameComments.symm (h : SameComments s t) : SameComments t s :=
  ⟨h.environment.symm, h.comments.symm, h.log.symm⟩

theorem SameComments.trans {t' : Session} (h : SameComments s t) (h' : SameComments t t') :
    SameComments s t' :=
  ⟨h.environment.trans h'.environment, h.comments.trans h'.comments, h.log.trans h'.log⟩

/-! ## Asking for one macro -/

/-- A macro was asked for, and nothing else happened that a scan of texts can see. -/
structure AsksOnly (owner : Owner) (s : Session) (asked : List Request) (t : Session) : Prop where
  asks : Asks owner s asked t
  comments : SameComments t s

theorem AsksOnly.trans {t' : Session} {asked asked' : List Request} (h : AsksOnly owner s asked t)
    (h' : AsksOnly owner t asked' t') : AsksOnly owner s (asked ++ asked') t' :=
  ⟨h.asks.trans h'.asks, h'.comments.trans h.comments⟩

theorem asksOnly_database (s : Session) (db : Database) : AsksOnly owner s [] { s with database := db } :=
  ⟨asks_nil rfl (fun _ _ => by cases owner <;> rfl) rfl, rfl, rfl, rfl⟩

theorem sameComments_reported (s : Session) (message : String) : SameComments (reported s message) s := by
  refine ⟨rfl, rfl, ?_⟩
  rw [reported, List.filter_append, List.filter_singleton]
  exact List.append_nil _

variable {details : List Detail}

theorem asksOnly_afterRequest {r : Request} (hkind : isMacroKind r.kind = true)
    (hserved : isServed owner s r = true) : AsksOnly owner s [r] (afterRequest s name r) := by
  refine ⟨⟨rfl, ?_, fun _ _ => by cases owner <;> rfl, ?_⟩, rfl, rfl, rfl⟩
  · intro r' hr'
    rw [List.mem_singleton.mp hr']
    exact hkind
  · rw [macroRequests, afterRequest, List.filter_append, List.filter_singleton, List.filter_singleton,
      hkind, hserved]
    rfl

/-- A request that is not served leaves no trace but the names left out. -/
theorem asks_dropped {r : Request} (hkind : isMacroKind r.kind = true) (hserved : isServed owner s r = false)
    (h : Asks owner s [] t) : Asks owner s [r] t where
  environment := h.environment
  kind r' hr' := List.mem_singleton.mp hr' ▸ hkind
  served := h.served
  requests := by
    rw [h.requests, List.filter_singleton, hserved]
    rfl

theorem display?_append_language (h : Named details name) (kind : SymbolKind) :
    Request.display? { kind, details := details ++ [.language "c"] } = some (.text name) := by
  have hdisplay := h.display kind
  rw [Request.display?] at hdisplay
  rw [Request.display?, List.findSome?_append, hdisplay]
  rfl

/-- **A request for a macro succeeds**, and is served unless introspection leaves it out. -/
theorem start_request (owner : Owner) (s : Session) (hkind : isMacroKind kind = true)
    (h : Named details name) : ∃ slot t, (request owner kind details).start s = (.ok slot, t) ∧
      AsksOnly owner s [{ kind, details := details ++ [.language "c"] }] t := by
  obtain ⟨id, hplain, -⟩ := start_requestPlain s kind h
  have hmade : Attempt.start (do return some (← requestPlain kind details)) s =
      (.ok (some id), afterRequest s name { kind, details := details ++ [.language "c"] }) := by
    rw [Attempt.start_bind_ok hplain]
    rfl
  cases owner with
  | c => exact ⟨_, _, hmade, asksOnly_afterRequest hkind rfl⟩
  | introspection =>
    cases hl : s.leavesOut with
    | false =>
      refine ⟨_, _, (start_requestFiltered_all hl kind details).trans hmade, ?_⟩
      exact asksOnly_afterRequest hkind (by rw [isServed, hl]; rfl)
    | true =>
      have hserved : isServed .introspection s { kind, details := details ++ [.language "c"] } =
          decide (Gir.verdict s.index s.leftOut kind (some name) = .keep) := by
        rw [isServed, hl, display?_append_language h]
        rfl
      have hstart := start_requestFiltered hl kind h
      cases hv : Gir.verdict s.index s.leftOut kind (some name) with
      | keep =>
        rw [hv] at hstart hserved
        exact ⟨_, _, hstart.trans hmade, asksOnly_afterRequest hkind hserved⟩
      | drop =>
        rw [hv] at hstart hserved
        exact ⟨_, _, hstart, asks_dropped hkind hserved (asks_nil rfl (fun _ _ => rfl) rfl), .refl s⟩
      | dropAlways message =>
        rw [hv] at hstart hserved
        exact ⟨_, _, hstart, asks_dropped hkind hserved (asks_nil rfl (fun _ _ => rfl) rfl),
          sameComments_reported s message⟩
      | dropOnce message =>
        rw [hv] at hstart hserved
        refine ⟨_, _, hstart, asks_dropped hkind hserved (asks_nil rfl ?_ rfl), ?_⟩
        · exact isServed_leaveOut hkind hv
        · exact ⟨rfl, rfl, (sameComments_reported s message).log⟩

/-! ## The macro of a definition -/

/-- A request for the macro `name` that an item of a file defines: for one with arguments it also tells what
they are. -/
inductive IsRequestFor (file : String) (item : Item String) (name : String) : Request → Prop where
  | constant : IsRequestFor file item name
      { kind := .constant
        details := [.definitionText item.text, .displayName (some name), .filename (some file),
          .line item.firstLine, .language "c"] }
  | function (result parameters : List SymbolSlot) : IsRequestFor file item name
      { kind := .functionMacro
        details := [.returnValue result, .parameters parameters, .definitionText item.text,
          .displayName (some name), .filename (some file), .line item.firstLine, .language "c"] }

/-- A request for the macro that an item of a file defines. If its body begins with a name that something can
follow, that is the name of the macro, and what follows tells whether it takes arguments. -/
def IsMacroRequest (file : String) (item : Item String) (r : Request) : Prop :=
  ∃ name, IsRequestFor file item name r ∧ ∀ word rest, item.text = "#define " ++ word ++ rest →
    IsMacroName word → EndsName rest →
      name = word ∧ (r.kind = .functionMacro ↔ rest.toList.head? = some '(')

/-- What a request tells of a macro whose body begins with a name. -/
theorem IsMacroRequest.kind_display? {file : String} {item : Item String} {r : Request}
    (h : IsMacroRequest file item r) (word rest : String) (htext : item.text = "#define " ++ word ++ rest)
    (hword : IsMacroName word) (hrest : EndsName rest) :
    (r.kind, r.display?) = (if rest.toList.head? = some '(' then .functionMacro else .constant,
      some (.text word)) := by
  obtain ⟨name, hfor, hname⟩ := h
  obtain ⟨rfl, hkind⟩ := hname word rest htext hword hrest
  cases hfor with
  | constant => rw [if_neg fun hparen => nomatch hkind.mpr hparen]; rfl
  | function => rw [if_pos (hkind.mp rfl)]; rfl

theorem start_addSymbol (owner : Owner) (s : Session) (x : Symbol) :
    ∃ id t, (addSymbol x).start s = (.ok id, t) ∧ AsksOnly owner s [] t :=
  ⟨_, _, rfl, asksOnly_database s _⟩

theorem start_addParameters (owner : Owner) (s : Session) {α : Type} {f : α → Doc SymbolId}
    (hf : ∀ a, ∃ x, f a = addSymbol x) (items : List α) :
    ∃ ids t, (items.mapM f).start s = (.ok ids, t) ∧ AsksOnly owner s [] t := by
  induction items generalizing s with
  | nil => exact ⟨[], s, rfl, asksOnly_database s s.database⟩
  | cons a rest ih =>
    obtain ⟨x, hx⟩ := hf a
    obtain ⟨id, t, hadd, ht⟩ := start_addSymbol owner s x
    obtain ⟨ids, t', hrest, ht'⟩ := ih t
    refine ⟨id :: ids, t', ?_, ht.trans ht'⟩
    rw [List.mapM_cons, hx, Attempt.start_bind_ok hadd, Attempt.start_bind_ok hrest]
    rfl

/-- The parameters of a macro are added, then it is asked for. -/
theorem start_requestFunction (owner : Owner) (s : Session) {α : Type} {f : α → Doc SymbolId}
    (hf : ∀ a, ∃ x, f a = addSymbol x) (items : List α) (result : SymbolSlot) (name file text : String)
    (line : Int) : ∃ parameters slot t,
      (items.mapM f >>= fun parameters => request owner .functionMacro [.returnValue [result],
        .parameters (parameters.map some), .definitionText text, .displayName (some name),
        .filename (some file), .line line]).start s = (.ok slot, t) ∧
      AsksOnly owner s [{ kind := .functionMacro, details := [.returnValue [result],
        .parameters parameters, .definitionText text, .displayName (some name), .filename (some file),
        .line line, .language "c"] }] t := by
  obtain ⟨ids, t, hadd, ht⟩ := start_addParameters owner s hf items
  obtain ⟨slot, t', hrequest, ht'⟩ := start_request owner t (rfl : isMacroKind .functionMacro = true)
    (⟨fun _ => rfl, fun _ => rfl⟩ : Named [.returnValue [result], .parameters (ids.map some),
      .definitionText text, .displayName (some name), .filename (some file), .line line] name)
  exact ⟨ids.map some, slot, t', (Attempt.start_bind_ok hadd).trans hrequest, ht.trans ht'⟩

/-- What the comment of a macro documents is added first, then the macro is asked for. -/
theorem start_functionMacro (owner : Owner) (s : Session) (name file text : String) (line : Int) :
    ∃ result parameters slot t, (functionMacro owner name file text line).start s = (.ok slot, t) ∧
      AsksOnly owner s [{ kind := .functionMacro, details := [.returnValue [result],
        .parameters parameters, .definitionText text, .displayName (some name), .filename (some file),
        .line line, .language "c"] }] t := by
  have hcomment : (comment? name).start s = (.ok (s.comments.lookup name), s) := rfl
  have hrest (t : Session) (params : List (String × Option String)) (result : SymbolSlot) :=
    start_requestFunction owner t (f := fun x => addSymbol { kind := .parameter, argName := some x.1 })
      (fun x => ⟨_, rfl⟩) params result name file text line
  rw [functionMacro, Attempt.start_bind_ok hcomment]
  cases s.comments.lookup name with
  | none => exact ⟨none, hrest s [] none⟩
  | some c =>
    by_cases hreturns : "returns" ∈ c.tags
    · obtain ⟨id, t, hadd, ht⟩ := start_addSymbol owner s { kind := .returnItem, tokens := none }
      obtain ⟨parameters, slot, t', hstart, ht'⟩ := hrest t c.params (some id)
      refine ⟨some id, parameters, slot, t', ?_, ht.trans ht'⟩
      simp only [if_pos hreturns]
      exact (Attempt.start_bind_ok hadd).trans hstart
    · simp only [if_neg hreturns]
      exact ⟨none, hrest s c.params none⟩

/-- **The macro of a definition is asked for.** -/
theorem start_macroSymbol (owner : Owner) (s : Session) (file : String) {item : Item String} {body : String}
    (hbody : item.text = "#define " ++ body) : ∃ slot t r,
      (macroSymbol owner item.text file item.firstLine).start s = (.ok slot, t) ∧
      IsMacroRequest file item r ∧ AsksOnly owner s [r] t := by
  obtain ⟨head, hhead⟩ := exists_macroHead? body
  rw [← hbody] at hhead
  have hword {word rest : String} (htext : item.text = "#define " ++ word ++ rest) (hword : IsMacroName word)
      (hrest : EndsName rest) :
      head = if rest.toList.head? = some '(' then .function word else .constant word := by
    rw [htext, macroHead?_name hword hrest] at hhead
    exact (Option.some.inj hhead).symm
  rw [macroSymbol, hhead, Attempt.start_bind_ok (Attempt.start_need_some _ _ _)]
  cases head with
  | function name =>
    obtain ⟨result, parameters, slot, t, hstart, ht⟩ :=
      start_functionMacro owner s name file item.text item.firstLine
    refine ⟨slot, t, _, hstart, ⟨name, .function [result] parameters, ?_⟩, ht⟩
    intro word rest htext hname hrest
    have hif := hword htext hname hrest
    split at hif
    · next hparen => exact ⟨MacroHead.function.inj hif, by simp [hparen]⟩
    · cases hif
  | constant name =>
    obtain ⟨slot, t, hstart, ht⟩ := start_request owner s (rfl : isMacroKind .constant = true)
      (⟨fun _ => rfl, fun _ => rfl⟩ : Named [.definitionText item.text, .displayName (some name),
        .filename (some file), .line item.firstLine] name)
    refine ⟨slot, t, _, hstart, ⟨name, .constant, ?_⟩, ht⟩
    intro word rest htext hname hrest
    have hif := hword htext hname hrest
    split at hif
    · cases hif
    · next hparen => exact ⟨MacroHead.constant.inj hif, by simp [hparen]⟩

/-! ## The items of a file -/

/-- The definitions of a file that are macros to ask for: those of a header, but for the first one if it is
only a guard. -/
def macroItems (file : String) (guarded : Bool) (items : List (Item String)) : List (Item String) :=
  if file.endsWith ".h" then (items.filter (·.kind = .definition)).drop (if guarded then 1 else 0) else []

/-- A session after an item of a file was read, if it is a comment. -/
def readItem (file : String) (lines : List String) (s : Session) (item : Item String) : Session :=
  match item.kind with
  | .comment => (Text.item? lines ((item.firstLine : Int) - 1)).elim s (withComment s file · item)
  | .definition => s

theorem SameComments.withComment (h : SameComments s t) (file line : String) (item : Item String) :
    SameComments (withComment s file line item) (withComment t file line item) := by
  refine ⟨?_, ?_, ?_⟩
  · simp only [C.withComment, h.environment]
  · simp only [C.withComment, h.comments, h.environment]
  · simp only [C.withComment, List.filter_append, h.log, h.environment]

theorem SameComments.readItems (h : SameComments s t) (file : String) (lines : List String)
    (items : List (Item String)) :
    SameComments (items.foldl (readItem file lines) s) (items.foldl (readItem file lines) t) := by
  induction items generalizing s t with
  | nil => exact h
  | cons item rest ih =>
    refine ih ?_
    rw [readItem, readItem]
    cases item.kind with
    | comment =>
      cases Text.item? lines ((item.firstLine : Int) - 1) with
      | none => exact h
      | some line => exact h.withComment file line item
    | definition => exact h

theorem asks_withComment (owner : Owner) (s : Session) (file line : String) (item : Item String) :
    Asks owner s [] (withComment s file line item) := by
  refine asks_nil ?_ (fun r _ => isServed_congr ?_ ?_ ?_) ?_
  all_goals simp only [withComment]

/-- **Going through the items of a file asks for its macros**, and reads its comments whatever is guarded. -/
theorem start_scanItems (owner : Owner) (file : String) {lines : List String} {items : List (Item String)}
    (hlines : ∀ item ∈ items, ∃ line, Text.item? lines ((item.firstLine : Int) - 1) = some line)
    (hbody : ∀ item ∈ items, item.kind = .definition → ∃ body, item.text = "#define " ++ body)
    (guarded : Bool) (s : Session) : ∃ asked t,
      (scanItems owner file lines guarded items).start s = (.ok (), t) ∧
      List.Forall₂ (IsMacroRequest file) (macroItems file guarded items) asked ∧
      Asks owner s asked t ∧ SameComments t (items.foldl (readItem file lines) s) := by
  -- over all sessions, as each item leaves another, and both values of `guarded`, as a definition ends it
  induction items generalizing guarded s with
  | nil =>
    refine ⟨[], s, rfl, ?_, asks_nil rfl (fun _ _ => rfl) rfl, .refl s⟩
    rw [macroItems]
    simp
  | cons item rest ih =>
    have ih := ih (fun item hitem => hlines item (List.mem_cons_of_mem _ hitem))
      (fun item hitem => hbody item (List.mem_cons_of_mem _ hitem))
    rw [List.foldl_cons, scanItems]
    cases hkind : item.kind with
    | comment =>
      obtain ⟨line, hline⟩ := hlines item List.mem_cons_self
      obtain ⟨asked, t, hstart, hasked, ht, hcomments⟩ := ih guarded (withComment s file line item)
      refine ⟨asked, t, (Attempt.start_bind_ok (start_scanComment s file hline)).trans hstart, ?_,
        (asks_withComment owner s file line item).trans ht, ?_⟩
      · rw [macroItems, List.filter_cons_of_neg (by simp [hkind])]
        exact hasked
      · rw [readItem, hkind, hline]
        exact hcomments
    | definition =>
      have hread : readItem file lines s item = s := by rw [readItem, hkind]
      have hfilter : (item :: rest).filter (·.kind = .definition) =
          item :: rest.filter (·.kind = .definition) := List.filter_cons_of_pos (by simp [hkind])
      rw [hread]
      by_cases hasks : (!guarded && file.endsWith ".h") = true
      · obtain ⟨body, htext⟩ := hbody item List.mem_cons_self hkind
        obtain ⟨slot, t₁, r, hmacro, hr, ht₁⟩ := start_macroSymbol owner s file htext
        obtain ⟨asked, t, hstart, hasked, ht, hcomments⟩ := ih false t₁
        rw [Bool.and_eq_true, Bool.not_eq_true'] at hasks
        refine ⟨r :: asked, t, ?_, ?_, ht₁.asks.trans ht,
          hcomments.trans (ht₁.comments.readItems file lines rest)⟩
        · simp only [hasks, Bool.not_false, Bool.and_self, if_true]
          exact (Attempt.start_bind_ok hmacro).trans hstart
        · rw [macroItems, if_pos hasks.2] at hasked
          rw [macroItems, if_pos hasks.2, hfilter, hasks.1]
          exact .cons hr hasked
      · obtain ⟨asked, t, hstart, hasked, ht, hcomments⟩ := ih false s
        refine ⟨asked, t, ?_, ?_, ht, hcomments⟩
        · simp only [hasks]
          exact hstart
        · -- a guard, or a file that is no header
          suffices hsame : macroItems file guarded (item :: rest) = macroItems file false rest by
            rw [hsame]
            exact hasked
          rw [macroItems, macroItems]
          cases guarded with
          | true => rw [hfilter]; rfl
          | false => rw [if_neg (by simpa using hasks), if_neg (by simpa using hasks)]

/-! ## The texts of files -/

/-- The lines of a file and what is found in them, if there is a file and all that is found in it is text. -/
def textOf (given : Environment) (file : String) : Option (List String × List (Item String)) :=
  match given.files.read file with
  | .error _ => none
  | .ok bytes => (extract (String.join (SourceLines.decoded bytes))).map (SourceLines.decoded bytes, ·)

theorem asksOnly_reported (owner : Owner) (s : Session) (message : String) :
    AsksOnly owner s [] (reported s message) :=
  ⟨asks_nil rfl (fun _ _ => by cases owner <;> rfl) rfl, sameComments_reported s message⟩

variable {file : String} (guarded : List String)

theorem start_scanText_ok {bytes : List UInt8} (h : s.environment.files.read file = .ok bytes) :
    (scanText owner guarded file).start s =
      Attempt.start (Attempt.need .brokenComment (extract (String.join (SourceLines.decoded bytes))) >>=
        scanItems owner file (SourceLines.decoded bytes) (file ∈ guarded))
      (reported s ("Getting comments in " ++ file)) := by
  have hgiven : given.start s = (.ok s.environment, s) := rfl
  rw [scanText, Attempt.start_bind_ok hgiven, h]
  rfl

/-- Going through the text of a file, if it can be read. -/
theorem start_scanText (owner : Owner) {lines : List String} {items : List (Item String)}
    (h : textOf s.environment file = some (lines, items)) : ∃ asked t,
      (scanText owner guarded file).start s = (.ok (), t) ∧
      List.Forall₂ (IsMacroRequest file) (macroItems file (file ∈ guarded) items) asked ∧
      Asks owner s asked t ∧ SameComments t (items.foldl (readItem file lines) s) := by
  unfold textOf at h
  split at h
  · cases h
  next bytes hread =>
  obtain ⟨found, hfound, hpair⟩ := Option.map_eq_some_iff.mp h
  obtain ⟨rfl, rfl⟩ := Prod.mk.inj hpair
  have hcount : newlines (Text.Utf8.encode (String.join (SourceLines.decoded bytes))) ≤
      (SourceLines.decoded bytes).length :=
    newlines_join_le_length fun line _ => newlines_decodeLine line
  have hreported := asksOnly_reported owner s ("Getting comments in " ++ file)
  obtain ⟨asked, t, hstart, hasked, ht, hcomments⟩ := start_scanItems owner file
    (fun item hitem => exists_item? hcount hfound hitem)
    (fun item hitem hkind => exists_definition_text hfound hitem hkind) (file ∈ guarded)
    (reported s ("Getting comments in " ++ file))
  refine ⟨asked, t, ?_, hasked, hreported.asks.trans ht,
    hcomments.trans (hreported.comments.readItems file _ _)⟩
  rw [start_scanText_ok guarded hread, hfound]
  exact hstart

/-- Going through the text of a file fails if it cannot be read. -/
theorem start_scanText_none (owner : Owner) (h : textOf s.environment file = none) : ∃ e t,
    (scanText owner guarded file).start s = (.error e, t) ∧ AsksOnly owner s [] t := by
  unfold textOf at h
  split at h
  · next e hread =>
    refine ⟨Fault.ofPath e, s, ?_, asksOnly_database s s.database⟩
    have hgiven : given.start s = (.ok s.environment, s) := rfl
    rw [scanText, Attempt.start_bind_ok hgiven, hread]
    rfl
  · next bytes hread =>
    refine ⟨.brokenComment, _, ?_, asksOnly_reported owner s ("Getting comments in " ++ file)⟩
    rw [start_scanText_ok guarded hread, Option.map_eq_none_iff.mp h]
    rfl

/-! ## The texts of a scan -/

/-- The files whose texts are gone through: all before the first that cannot be read. -/
def filesRead (given : Environment) (files : List String) : List String :=
  files.takeWhile fun file => (textOf given file).isSome

/-- The macros to ask for in the texts of files, each with its file. -/
def macrosOf (given : Environment) (guarded files : List String) : List (String × Item String) :=
  (filesRead given files).flatMap fun file =>
    (macroItems file (file ∈ guarded) ((textOf given file).elim [] Prod.snd)).map (file, ·)

/-- A session after the comments of a file were read. -/
def readText (given : Environment) (s : Session) (file : String) : Session :=
  (textOf given file).elim s fun text => text.2.foldl (readItem file text.1) s

theorem SameComments.readTexts (h : SameComments s t) (given : Environment) (files : List String) :
    SameComments (files.foldl (readText given) s) (files.foldl (readText given) t) := by
  induction files generalizing s t with
  | nil => exact h
  | cons file rest ih =>
    refine ih ?_
    rw [readText, readText]
    cases textOf given file with
    | none => exact h
    | some text => exact h.readItems file text.1 text.2

/-- **Going through texts asks for their macros** up to the first file that cannot be read. -/
theorem start_scanTexts (owner : Owner) (files : List String) (s : Session) : ∃ r asked t,
    (files.forM (scanText owner guarded)).start s = (r, t) ∧
    (r = .ok ⟨⟩ ↔ ∀ file ∈ files, (textOf s.environment file).isSome = true) ∧
    List.Forall₂ (fun x r => IsMacroRequest x.1 x.2 r) (macrosOf s.environment guarded files) asked ∧
    Asks owner s asked t ∧
    SameComments t ((filesRead s.environment files).foldl (readText s.environment) s) := by
  induction files generalizing s with
  | nil => exact ⟨.ok ⟨⟩, [], s, rfl, by simp, .nil, asks_nil rfl (fun _ _ => rfl) rfl, .refl s⟩
  | cons file rest ih =>
    rcases htext : textOf s.environment file with _ | ⟨lines, items⟩
    · obtain ⟨e, t, hstart, ht⟩ := start_scanText_none guarded owner htext
      have hnone : filesRead s.environment (file :: rest) = [] := by
        rw [filesRead, List.takeWhile_cons_of_neg (by simp [htext])]
      refine ⟨.error e, [], t, Attempt.start_bind_error hstart, ?_, ?_, ht.asks, ?_⟩
      · simp [htext]
      · rw [macrosOf, hnone]
        exact .nil
      · rw [hnone]
        exact ht.comments
    · obtain ⟨asked, t, hstart, hasked, ht, hcomments⟩ := start_scanText guarded owner htext
      obtain ⟨r, asked', t', hrest, hr, hasked', ht', hcomments'⟩ := ih t
      -- the other files are read from the same tree of files
      rw [ht.environment] at hr hasked' hcomments'
      have hread : filesRead s.environment (file :: rest) = file :: filesRead s.environment rest := by
        rw [filesRead, List.takeWhile_cons_of_pos (by simp [htext]), filesRead]
      refine ⟨r, asked ++ asked', t', (Attempt.start_forM_cons_ok hstart).trans hrest, ?_, ?_,
        ht.trans ht', ?_⟩
      · simp [hr, htext]
      · rw [macrosOf, hread, List.flatMap_cons, htext]
        refine List.rel_append ?_ hasked'
        exact List.forall₂_map_left_iff.mpr hasked
      · rw [hread, List.foldl_cons]
        refine hcomments'.trans (SameComments.readTexts ?_ s.environment _)
        rw [readText, htext]
        exact hcomments

/-! ## A scan -/

/-- **A scan asks for one macro for each definition in a header**, in order, but not for the first one of a
guarded header. All that are asked for are served, but for those that introspection leaves out. The scan succeeds
if all texts can be read; otherwise it asks for the macros in those before. What it learns of comments does not
depend on the guarded headers. -/
theorem scan_asks_for_macros (owner : Owner) (plan : Plan) (hplan : plan.treesOnly = false) {s s₁ : Session}
    {guarded : List String} (htrees : (scanTrees owner plan).start s = (.ok guarded, s₁)) :
    ∃ r asked t, (scan owner plan).start s = (r, t) ∧
      (r = .ok ⟨⟩ ↔ ∀ file ∈ plan.files, (textOf s.environment file).isSome = true) ∧
      List.Forall₂ (fun x r => IsMacroRequest x.1 x.2 r) (macrosOf s.environment guarded plan.files) asked ∧
      macroRequests t = macroRequests s ++ asked.filter (isServed owner s₁) ∧
      ∀ others : List String,
        SameComments ((plan.files.forM (scanText owner others)).start s₁).2 t := by
  -- going through trees asked for no macro and left the files as they are
  have hkeeps : backdrop s₁ = backdrop s := by
    have hview := keeps_scanTrees owner plan s
    rwa [htrees] at hview
  have hgiven : s₁.environment = s.environment := congrArg Prod.fst hkeeps
  have hmacros : macroRequests s₁ = macroRequests s := congrArg Prod.snd hkeeps
  obtain ⟨r, asked, t, hstart, hr, hasked, ht, hcomments⟩ := start_scanTexts guarded owner plan.files s₁
  rw [hgiven] at hr hasked
  refine ⟨r, asked, t, ?_, hr, hasked, hmacros ▸ ht.requests, fun others => ?_⟩
  · rw [scan_eq_scanTrees owner plan hplan, Attempt.start_bind_ok htrees]
    exact hstart
  · obtain ⟨_, _, t', hothers, _, _, _, hcomments'⟩ := start_scanTexts others owner plan.files s₁
    rw [hothers]
    exact hcomments'.trans hcomments.symm

/-- A session with one header, which is guarded. -/
def guardedSession : Session where
  environment :=
    { files := { files := [("/a.h", Text.Utf8.encode ("#ifndef A_H\n#define A_H\n/** Doc. */\n"
        ++ "#define MAX(a, b) ((a) > (b))\n#define\tSIZE\t(1 + 2)\n#endif\n"))] }
      units := [{ main := "/a.h", guarded := ["/a.h"] }] }
  library := { loaded := true }

/-- The guard is no macro; a tab ends a name as a space does, whatever parentheses follow. -/
theorem scan_asks_for_macros_guarded : ∃ s₁ t,
    (scanTrees .c { files := ["/a.h"] }).start guardedSession = (.ok ["/a.h"], s₁) ∧
    (scan .c { files := ["/a.h"] }).start guardedSession = (.ok ⟨⟩, t) ∧
    (macroRequests t).map (fun r => (r.kind, r.display?)) =
      [(.functionMacro, some (.text "MAX")), (.constant, some (.text "SIZE"))] ∧
    SameComments ((["/a.h"].forM (scanText .c [])).start s₁).2 t := by
  have htrees : ((scanTrees .c { files := ["/a.h"] }).start guardedSession).1.toOption = some ["/a.h"] := by
    decide +kernel
  have hmacros : (macrosOf guardedSession.environment ["/a.h"] ["/a.h"]).map (·.2.text) =
      ["#define MAX(a, b) ((a) > (b))", "#define SIZE\t(1 + 2)"] := by
    decide +kernel
  have hread : ∀ file ∈ ["/a.h"], (textOf guardedSession.environment file).isSome = true := by
    decide +kernel
  rcases hstart : (scanTrees .c { files := ["/a.h"] }).start guardedSession with ⟨e | guarded, s₁⟩
  · rw [hstart] at htrees
    cases htrees
  rw [hstart] at htrees
  cases htrees
  obtain ⟨r, asked, t, hscan, hr, hasked, hrequests, hcomments⟩ := scan_asks_for_macros .c _ rfl hstart
  obtain rfl := hr.mpr hread
  refine ⟨s₁, t, rfl, hscan, ?_, hcomments []⟩
  obtain ⟨max, rest, heq, hmax, hrest⟩ := List.map_eq_cons_iff.mp hmacros
  obtain ⟨size, rest', rfl, hsize, hnil⟩ := List.map_eq_cons_iff.mp hrest
  obtain rfl := List.map_eq_nil_iff.mp hnil
  rw [heq] at hasked
  cases hasked with
  | cons hfirst hothers =>
  cases hothers with
  | cons hsecond hnone =>
  cases hnone
  have hall (requests : List Request) : requests.filter (isServed .c s₁) = requests :=
    List.filter_eq_self.mpr fun _ _ => rfl
  rw [hrequests, hall, List.map_append, List.map_cons, List.map_cons,
    hfirst.kind_display? "MAX" "(a, b) ((a) > (b))" hmax (by decide) (by decide),
    hsecond.kind_display? "SIZE" "\t(1 + 2)" hsize (by decide) (by decide)]
  rfl

end GirDoc.C
