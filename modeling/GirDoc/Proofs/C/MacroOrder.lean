import GirDoc.Proofs.C.SeenComments
import GirDoc.Record

/-!
# Macros and the order of files

The macros of a scan are asked for with what the comments read before tell of them, and the first one of a guarded
header is passed over. Whether a header is guarded is told by the unit that it is first seen in. So the order of the
files counts: `writtenMacros_perm_iff` says when two orders ask for the same macros.

* `writtenMacros s t` are the requests for macros with arguments on the way from `s` to `t`, with what they tell of
  parameters and results.
* `Writes owner s asked t` says that the macros `asked` were asked for on the way from `s` to `t`, each with what it
  was told of.

What a request tells is kept in symbols of its own, which no key leads to. So it is the same at the end of a scan as
it was when the request was made.
-/

namespace GirDoc.C

open Extract Session

/-! ## Requests for macros -/

/-- The written form of a parameter of a macro. -/
def parameterForm (name : String) : Value :=
  .dict [("type", .text "ParameterSymbol"), ("tokens", .null), ("argname", .text name)]

/-- The written form of what a macro returns; nothing is told of it. -/
def resultForm (returns : Bool) : Value :=
  if returns then .dict [("type", .text "ReturnItemSymbol"), ("tokens", .null)] else .null

/-- The written form of a request for a macro. -/
def MacroDefinition.written (m : MacroDefinition) (told : Told) : Value :=
  .list [.text "FunctionMacroSymbol", .dict [("return_value", .list [resultForm told.returns]),
    ("parameters", .list (told.params.map parameterForm)), ("original_text", .text m.text),
    ("display_name", .text m.name), ("filename", .text m.file), ("lineno", .int m.line), ("language", .text "c")]]

/-- The symbol of a parameter of a macro. -/
def parameterItem (name : String) : Symbol := { kind := .parameter, argName := some name }

/-- The symbol of what a macro returns. -/
def resultItem : Symbol := { kind := .returnItem, tokens := none }

/-- The place for what a macro returns. -/
def IsResult (db : Database) : (returns : Bool) → SymbolSlot → Prop
  | true, slot => ∃ id, slot = some id ∧ db.HasItem id resultItem
  | false, slot => slot = none

/-- The places for parameters of a macro. -/
def AreParameters (db : Database) (params : List String) (ids : List SymbolId) : Prop :=
  List.Forall₂ (fun p id => db.HasItem id (parameterItem p)) params ids

/-- The details of a request for a macro, but for its language. -/
def macroDetails (m : MacroDefinition) (result : SymbolSlot) (parameters : List SymbolId) : List Detail :=
  [.returnValue [result], .parameters (parameters.map some), .definitionText m.text, .displayName (some m.name),
    .filename (some m.file), .line m.line]

/-- A request for a macro, with what is told of it. -/
def IsRequestOf (db : Database) (x : MacroDefinition × Told) (r : Request) : Prop :=
  ∃ result parameters, IsResult db x.2.returns result ∧ AreParameters db x.2.params parameters ∧
    r = { kind := .functionMacro, details := macroDetails x.1 result parameters ++ [.language "c"] }

variable {db : Database} {r : Request} {s t : Session}

theorem written_parameterItem {p : String} {id : SymbolId} (h : db.HasItem id (parameterItem p)) :
    Record.written db (some id) = parameterForm p := by
  rw [Record.written, Record.writtenWithin, h.get]
  rfl

theorem written_result {returns : Bool} {slot : SymbolSlot} (h : IsResult db returns slot) :
    Record.written db slot = resultForm returns := by
  cases returns with
  | true =>
    obtain ⟨id, rfl, hid⟩ := h
    rw [Record.written, Record.writtenWithin, hid.get]
    rfl
  | false =>
    cases h
    rfl

theorem writtenAll_parameters {params : List String} {ids : List SymbolId} (h : AreParameters db params ids) :
    Record.writtenAll db (ids.map some) = .list (params.map parameterForm) := by
  rw [Record.writtenAll, List.map_map]
  congr 1
  induction h with
  | nil => rfl
  | cons hid _ ih => rw [List.map_cons, List.map_cons, ih, Function.comp_apply, written_parameterItem hid]

/-- What is written of a request is what the macro was told of. -/
theorem IsRequestOf.request_eq {x : MacroDefinition × Told} (h : IsRequestOf s.database x r) :
    Record.request s r = x.1.written x.2 := by
  obtain ⟨result, parameters, hresult, hparameters, rfl⟩ := h
  have hall : Record.writtenAll s.database [result] = .list [resultForm x.2.returns] := by
    rw [Record.writtenAll, List.map_singleton, written_result hresult]
  simp only [Record.request, macroDetails, List.cons_append, List.nil_append, List.map_cons, List.map_nil,
    Record.detail, hall, writtenAll_parameters hparameters]
  rfl

/-! ## Items last -/

/-- Symbols that no key leads to are the same later. -/
def ItemsLast (s t : Session) : Prop := ∀ id x, s.database.HasItem id x → t.database.HasItem id x

theorem ItemsLast.trans {t' : Session} (h : ItemsLast s t) (h' : ItemsLast t t') : ItemsLast s t' :=
  fun id x hx => h' id x (h id x hx)

theorem itemsLast_of_eq (h : t.database = s.database) : ItemsLast s t := by
  intro id x hx
  rw [h]
  exact hx

theorem AreParameters.last {params : List String} {ids : List SymbolId} (h : AreParameters s.database params ids)
    (hlast : ItemsLast s t) : AreParameters t.database params ids := h.imp fun _ id => hlast id _

theorem IsResult.last {returns : Bool} {slot : SymbolSlot} (h : IsResult s.database returns slot)
    (hlast : ItemsLast s t) : IsResult t.database returns slot := by
  cases returns with
  | true =>
    obtain ⟨id, hslot, hid⟩ := h
    exact ⟨id, hslot, hlast id _ hid⟩
  | false => exact h

theorem IsRequestOf.last {x : MacroDefinition × Told} (h : IsRequestOf s.database x r) (hlast : ItemsLast s t) :
    IsRequestOf t.database x r := by
  obtain ⟨result, parameters, hresult, hparameters, hr⟩ := h
  exact ⟨result, parameters, hresult.last hlast, hparameters.last hlast, hr⟩

/-! ## Asking for one macro -/

/-- Macros were asked for on the way from one session to another, each with what it was told of. -/
structure Writes (owner : Owner) (s : Session) (calls : List (MacroDefinition × Told)) (t : Session) : Prop where
  last : ItemsLast s t
  asked : ∃ asked, Asks owner s asked t ∧
    List.Forall₂ (IsRequestOf t.database) calls (asked.filter (·.kind = .functionMacro))

theorem Writes.trans {owner : Owner} {t' : Session} {calls calls' : List (MacroDefinition × Told)}
    (h : Writes owner s calls t) (h' : Writes owner t calls' t') : Writes owner s (calls ++ calls') t' := by
  obtain ⟨asked, hasks, hcalls⟩ := h.asked
  obtain ⟨asked', hasks', hcalls'⟩ := h'.asked
  refine ⟨h.last.trans h'.last, asked ++ asked', hasks.trans hasks', ?_⟩
  rw [List.filter_append]
  exact List.rel_append (hcalls.imp fun _ _ hr => hr.last h'.last) hcalls'

/-- Nothing was asked for. -/
theorem writes_nil {owner : Owner} (hasks : Asks owner s [] t) (hdatabase : t.database = s.database) :
    Writes owner s [] t := ⟨itemsLast_of_eq hdatabase, [], hasks, .nil⟩

/-- A request is served by its name, or changes nothing that is known of symbols. -/
theorem itemsLast_request {details : List Detail} {name : String} (owner : Owner) (s : Session) (kind : SymbolKind)
    (h : Named details name) :
    ItemsLast s ((request owner kind details).start s).2 := by
  obtain ⟨id, hplain, -⟩ := start_requestPlain s kind h
  have hmade : ItemsLast s (Attempt.start (do return some (← requestPlain kind details)) s).2 := by
    rw [Attempt.start_bind_ok hplain]
    intro id x hx
    exact hx.serve name _
  cases owner with
  | c => exact hmade
  | introspection =>
    show ItemsLast s ((requestFiltered kind details).start s).2
    cases hl : s.leavesOut with
    | false =>
      rw [start_requestFiltered_all hl kind details]
      exact hmade
    | true =>
      rw [start_requestFiltered hl kind h]
      cases Gir.verdict s.index s.leftOut kind (some name) with
      | keep => exact hmade
      | drop => exact itemsLast_of_eq rfl
      | dropAlways message => exact itemsLast_of_eq rfl
      | dropOnce message => exact itemsLast_of_eq rfl

theorem itemsLast_addSymbol (s : Session) (x : Symbol) : ItemsLast s ((addSymbol x).start s).2 :=
  fun _ _ hx => hx.add x

/-- The parameters of a macro are added one after the other. -/
theorem start_parameters (owner : Owner) (s : Session) (params : List (String × Option String)) : ∃ ids t,
    (params.mapM fun x => addSymbol { kind := .parameter, argName := some x.1 }).start s = (.ok ids, t) ∧
    AsksOnly owner s [] t ∧ ItemsLast s t ∧ AreParameters t.database (params.map Prod.fst) ids := by
  induction params generalizing s with
  | nil => exact ⟨[], s, rfl, asksOnly_database s s.database, itemsLast_of_eq rfl, .nil⟩
  | cons x rest ih =>
    have hadd : (addSymbol (parameterItem x.1)).start s = (.ok s.database.symbols.size,
      { s with database := (s.database.add (parameterItem x.1)).1 }) := rfl
    have hitem := s.database.hasItem_add (parameterItem x.1)
    obtain ⟨ids, t, hrest, hasks, hlast, hids⟩ := ih { s with database := (s.database.add (parameterItem x.1)).1 }
    refine ⟨_ :: ids, t, ?_, (asksOnly_database s _).trans hasks,
      (itemsLast_addSymbol s (parameterItem x.1)).trans hlast, .cons (hlast _ _ hitem) hids⟩
    rw [List.mapM_cons]
    exact (Attempt.start_bind_ok hadd).trans (Attempt.start_bind_ok hrest)

/-- What a macro is told of is added, then it is asked for. -/
theorem start_requestMacro (owner : Owner) (s : Session) (m : MacroDefinition)
    (params : List (String × Option String)) {returns : Bool} {result : SymbolSlot}
    (hresult : IsResult s.database returns result) : ∃ slot t,
      ((params.mapM fun x => addSymbol { kind := .parameter, argName := some x.1 }) >>= fun parameters =>
        request owner .functionMacro (macroDetails m result parameters)).start s = (.ok slot, t) ∧
      Writes owner s [(m, ⟨params.map Prod.fst, returns⟩)] t ∧ SameComments t s := by
  obtain ⟨ids, t₁, hadd, hasks, hlast, hids⟩ := start_parameters owner s params
  have hnamed : Named (macroDetails m result ids) m.name := ⟨fun _ => rfl, fun _ => rfl⟩
  obtain ⟨slot, t, hrequest, hasked⟩ := start_request owner t₁ (rfl : isMacroKind .functionMacro = true) hnamed
  have hlast' : ItemsLast t₁ t := by
    have h := itemsLast_request owner t₁ .functionMacro hnamed
    rwa [hrequest] at h
  have hboth := hasks.trans hasked
  refine ⟨slot, t, (Attempt.start_bind_ok hadd).trans hrequest, ⟨hlast.trans hlast', _, hboth.asks, ?_⟩,
    hboth.comments⟩
  exact .cons ⟨result, ids, (hresult.last hlast).last hlast', hids.last hlast', rfl⟩ .nil

/-- **A macro with arguments is asked for with what its comment tells.** -/
theorem start_functionMacro_told (owner : Owner) (s : Session) (m : MacroDefinition) : ∃ slot t,
    (functionMacro owner m.name m.file m.text m.line).start s = (.ok slot, t) ∧
    Writes owner s [(m, .of (s.comments.lookup m.name))] t ∧ SameComments t s := by
  have hcomment : (comment? m.name).start s = (.ok (s.comments.lookup m.name), s) := rfl
  rw [functionMacro, Attempt.start_bind_ok hcomment]
  cases s.comments.lookup m.name with
  | none => exact start_requestMacro owner s m [] (rfl : IsResult s.database false none)
  | some c =>
    by_cases hreturns : "returns" ∈ c.tags
    · have htold : Told.of (some c) = ⟨c.params.map Prod.fst, true⟩ := by simp [Told.of, hreturns]
      have hadd : (addSymbol resultItem).start s = (.ok s.database.symbols.size,
        { s with database := (s.database.add resultItem).1 }) := rfl
      have hresult : IsResult (s.database.add resultItem).1 true (some s.database.symbols.size) :=
        ⟨_, rfl, s.database.hasItem_add resultItem⟩
      obtain ⟨slot, t, hstart, hwrites, hcomments⟩ := start_requestMacro owner
        { s with database := (s.database.add resultItem).1 } m c.params hresult
      have hfirst : Writes owner s [] { s with database := (s.database.add resultItem).1 } :=
        ⟨itemsLast_addSymbol s resultItem, [], (asksOnly_database s _).asks, .nil⟩
      simp only [if_pos hreturns]
      rw [htold]
      exact ⟨slot, t, (Attempt.start_bind_ok hadd).trans hstart, hfirst.trans hwrites,
        hcomments.trans ⟨rfl, rfl, rfl⟩⟩
    · have htold : Told.of (some c) = ⟨c.params.map Prod.fst, false⟩ := by simp [Told.of, hreturns]
      simp only [if_neg hreturns]
      rw [htold]
      exact start_requestMacro owner s m c.params (rfl : IsResult s.database false none)

/-! ## The items of a file -/

/-- Whether a macro is asked for: not if it is the first definition of a guarded file. -/
def MacroDefinition.isReached (guarded : List String) (m : MacroDefinition) : Bool :=
  !(m.isFirst && decide (m.file ∈ guarded))

/-- What is asked for on the way through pieces, when some files are guarded. -/
def reached (guarded : List String) (known : List (String × Comment)) (ps : List Piece) :
    List (MacroDefinition × Told) := (asksFor known ps).filter fun x => x.1.isReached guarded

theorem reached_append (guarded : List String) (known : List (String × Comment)) (ps ps' : List Piece) :
    reached guarded known (ps ++ ps') =
      reached guarded known ps ++ reached guarded (keepAll known (commentsOf ps)) ps' := by
  rw [reached, asksFor_append, List.filter_append, reached, reached]

/-- A session after pieces were gone through: macros were asked for, and comments were read. -/
structure GoesThrough (owner : Owner) (guarded : List String) (s : Session) (ps : List Piece) (t : Session) :
    Prop where
  writes : Writes owner s (reached guarded s.comments ps) t
  comments : t.comments = keepAll s.comments (commentsOf ps)
  environment : t.environment = s.environment

variable {owner : Owner} {guarded : List String} {ps ps' : List Piece}

theorem goesThrough_nil (owner : Owner) (guarded : List String) (s : Session) : GoesThrough owner guarded s [] s :=
  ⟨writes_nil (asks_nil rfl (fun _ _ => rfl) rfl) rfl, rfl, rfl⟩

theorem GoesThrough.trans {t' : Session} (h : GoesThrough owner guarded s ps t)
    (h' : GoesThrough owner guarded t ps' t') : GoesThrough owner guarded s (ps ++ ps') t' := by
  have hwrites := h'.writes
  have hcomments := h'.comments
  rw [h.comments] at hwrites hcomments
  refine ⟨?_, ?_, h'.environment.trans h.environment⟩
  · rw [reached_append]
    exact h.writes.trans hwrites
  · rw [hcomments, commentsOf, commentsOf, commentsOf, List.filterMap_append, keepAll_append]

theorem goesThrough_withComment (s : Session) (file line : String) (item : Item String) :
    GoesThrough owner guarded s ((documents? s.environment file line item).map .comment).toList
      (withComment s file line item) := by
  refine ⟨?_, ?_, rfl⟩
  · have hnone : reached guarded s.comments ((documents? s.environment file line item).map .comment).toList = [] := by
      cases documents? s.environment file line item <;> rfl
    rw [hnone]
    exact writes_nil (asks_withComment owner s file line item) rfl
  · rw [withComment]
    cases documents? s.environment file line item <;> rfl

/-- A definition that is not asked for: the first one of a guarded file, or one of a file that is no header. -/
theorem goesThrough_skipped {file : String} {isFirst : Bool} (item : Item String)
    (h : ¬(!(isFirst && decide (file ∈ guarded)) && file.endsWith ".h") = true) (s : Session) :
    GoesThrough owner guarded s ((itemDefinition? file isFirst item).map .definition).toList s := by
  refine ⟨?_, ?_, rfl⟩
  · suffices hnone : reached guarded s.comments ((itemDefinition? file isFirst item).map .definition).toList = [] by
      rw [hnone]
      exact (goesThrough_nil owner guarded s).writes
    cases hdefinition : itemDefinition? file isFirst item with
    | none => rfl
    | some m =>
      obtain ⟨rfl, rfl, hheader⟩ := eq_of_itemDefinition?_eq_some hdefinition
      have hskips : m.isReached guarded = false := by simpa [MacroDefinition.isReached, hheader] using h
      simp [reached, asksFor, hskips]
  · cases itemDefinition? file isFirst item <;> rfl

/-- The definition of a header is asked for, with what is told of it if it has arguments. -/
theorem start_macroSymbol_told (owner : Owner) (s : Session) {file : String} {isFirst : Bool} {item : Item String}
    {body : String} (hbody : item.text = "#define " ++ body)
    (h : (!(isFirst && decide (file ∈ guarded)) && file.endsWith ".h") = true) : ∃ slot t,
      (macroSymbol owner item.text file item.firstLine).start s = (.ok slot, t) ∧
      GoesThrough owner guarded s ((itemDefinition? file isFirst item).map .definition).toList t := by
  rw [Bool.and_eq_true] at h
  obtain ⟨head, hhead⟩ := exists_macroHead? body
  rw [← hbody] at hhead
  rw [macroSymbol, hhead, Attempt.start_bind_ok (Attempt.start_need_some _ _ _), itemDefinition?, if_pos h.2, hhead]
  cases head with
  | function name =>
    obtain ⟨slot, t, hstart, hwrites, hcomments⟩ := start_functionMacro_told owner s
      { file, name, text := item.text, line := item.firstLine, isFirst }
    refine ⟨slot, t, hstart, ?_, hcomments.comments, hcomments.environment⟩
    have hreached : MacroDefinition.isReached guarded
        { file, name, text := item.text, line := item.firstLine, isFirst } = true := h.1
    simp only [reached, Option.map_some, Option.toList_some, asksFor, List.filter_cons, hreached, if_true,
      List.filter_nil]
    exact hwrites
  | constant name =>
    have hnamed : Named [.definitionText item.text, .displayName (some name), .filename (some file),
        .line item.firstLine] name := ⟨fun _ => rfl, fun _ => rfl⟩
    obtain ⟨slot, t, hstart, ht⟩ := start_request owner s (rfl : isMacroKind .constant = true) hnamed
    have hlast := itemsLast_request owner s .constant hnamed
    rw [hstart] at hlast
    exact ⟨slot, t, hstart, ⟨hlast, _, ht.asks, .nil⟩, ht.comments.comments, ht.comments.environment⟩

/-- **Going through the items of a file** asks for the macros that it reaches, each with what is told of it so far. -/
theorem start_scanItems_told (owner : Owner) (guarded : List String) (file : String) {lines : List String}
    {items : List (Item String)}
    (hlines : ∀ item ∈ items, ∃ line, Text.item? lines ((item.firstLine : Int) - 1) = some line)
    (hbody : ∀ item ∈ items, item.kind = .definition → ∃ body, item.text = "#define " ++ body)
    (isFirst : Bool) (s : Session) : ∃ t,
      (scanItems owner file lines (isFirst && decide (file ∈ guarded)) items).start s = (.ok (), t) ∧
      GoesThrough owner guarded s (pieces s.environment file lines isFirst items) t := by
  -- over all sessions, as each item leaves another, and both values of `isFirst`, as a definition ends it
  induction items generalizing isFirst s with
  | nil => exact ⟨s, rfl, goesThrough_nil owner guarded s⟩
  | cons item rest ih =>
    have ih := ih (fun item hitem => hlines item (List.mem_cons_of_mem _ hitem))
      (fun item hitem => hbody item (List.mem_cons_of_mem _ hitem))
    rw [scanItems, pieces]
    cases hkind : item.kind with
    | comment =>
      obtain ⟨line, hline⟩ := hlines item List.mem_cons_self
      obtain ⟨t, hstart, ht⟩ := ih isFirst (withComment s file line item)
      refine ⟨t, (Attempt.start_bind_ok (start_scanComment s file hline)).trans hstart, ?_⟩
      simp only [itemComment?, hline, Option.bind_some]
      exact (goesThrough_withComment s file line item).trans ht
    | definition =>
      by_cases hasks : (!(isFirst && decide (file ∈ guarded)) && file.endsWith ".h") = true
      · obtain ⟨body, htext⟩ := hbody item List.mem_cons_self hkind
        obtain ⟨slot, t₁, hmacro, ht₁⟩ := start_macroSymbol_told owner s htext hasks
        obtain ⟨t, hstart, ht⟩ := ih false t₁
        rw [ht₁.environment] at ht
        refine ⟨t, ?_, ht₁.trans ht⟩
        simp only [hasks, if_true]
        exact (Attempt.start_bind_ok hmacro).trans hstart
      · obtain ⟨t, hstart, ht⟩ := ih false s
        refine ⟨t, ?_, (goesThrough_skipped item hasks s).trans ht⟩
        simp only [hasks]
        exact hstart

/-! ## The texts of files -/

/-- Going through the text of a file that can be read. -/
theorem start_scanText_told (owner : Owner) (guarded : List String) {file : String}
    (h : (textOf s.environment file).isSome = true) :
    ∃ t, (scanText owner guarded file).start s = (.ok (), t) ∧
      GoesThrough owner guarded s (piecesIn s.environment file) t := by
  obtain ⟨⟨lines, items⟩, htext⟩ := Option.isSome_iff_exists.mp h
  rw [piecesIn, htext]
  unfold textOf at htext
  split at htext
  · cases htext
  next bytes hread =>
  obtain ⟨found, hfound, hpair⟩ := Option.map_eq_some_iff.mp htext
  obtain ⟨rfl, rfl⟩ := Prod.mk.inj hpair
  have hcount : newlines (Text.Utf8.encode (String.join (SourceLines.decoded bytes))) ≤
      (SourceLines.decoded bytes).length :=
    newlines_join_le_length fun line _ => newlines_decodeLine line
  have hreported : GoesThrough owner guarded s [] (reported s ("Getting comments in " ++ file)) :=
    ⟨writes_nil (asksOnly_reported owner s _).asks rfl, rfl, rfl⟩
  obtain ⟨t, hstart, ht⟩ := start_scanItems_told owner guarded file
    (fun item hitem => exists_item? hcount hfound hitem)
    (fun item hitem hkind => exists_definition_text hfound hitem hkind) true
    (reported s ("Getting comments in " ++ file))
  refine ⟨t, ?_, hreported.trans ht⟩
  rw [start_scanText_ok guarded hread, hfound]
  exact hstart

/-- **Going through texts** asks for the macros that are reached, each with what was told of it before. -/
theorem start_scanTexts_told (owner : Owner) (guarded : List String) {files : List String} {s : Session}
    (h : ∀ file ∈ files, (textOf s.environment file).isSome = true) :
    ∃ t, (files.forM (scanText owner guarded)).start s = (.ok ⟨⟩, t) ∧
      GoesThrough owner guarded s (files.flatMap (piecesIn s.environment)) t := by
  induction files generalizing s with
  | nil => exact ⟨s, rfl, goesThrough_nil owner guarded s⟩
  | cons file rest ih =>
    obtain ⟨hfile, hrest⟩ := List.forall_mem_cons.mp h
    obtain ⟨t₁, hstart₁, ht₁⟩ := start_scanText_told owner guarded hfile
    rw [← ht₁.environment] at hrest
    obtain ⟨t, hstart, ht⟩ := ih hrest
    rw [ht₁.environment] at ht
    exact ⟨t, (Attempt.start_forM_cons_ok hstart₁).trans hstart, ht₁.trans ht⟩

/-! ## The macros of a scan -/

/-- The requests for macros with arguments on the way from one session to another, written out. -/
def writtenMacros (s t : Session) : List Value :=
  (((macroRequests t).drop (macroRequests s).length).filter (·.kind = .functionMacro)).map (Record.request t)

/-- Whether a macro is requested: it is not only a guard, and introspection does not leave it out. -/
def MacroDefinition.isRequested (owner : Owner) (guarded : List String) (s : Session) (m : MacroDefinition) : Bool :=
  m.isReached guarded && isServed owner s { kind := .functionMacro, details := [.displayName (some m.name)] }

theorem isServed_of_isRequestOf {x : MacroDefinition × Told} (h : IsRequestOf db x r) (owner : Owner) (s : Session) :
    isServed owner s r = isServed owner s { kind := .functionMacro, details := [.displayName (some x.1.name)] } := by
  obtain ⟨result, parameters, -, -, rfl⟩ := h
  cases owner with
  | c => rfl
  | introspection => rfl

theorem map_request_filter {calls : List (MacroDefinition × Told)} {asked : List Request}
    (h : List.Forall₂ (IsRequestOf t.database) calls asked) (owner : Owner) (s : Session) :
    (asked.filter (isServed owner s)).map (Record.request t) =
      (calls.filter fun x => isServed owner s { kind := .functionMacro, details := [.displayName (some x.1.name)] }).map
        fun x => x.1.written x.2 := by
  induction h with
  | nil => rfl
  | @cons x r calls asked hr _ ih =>
    rw [List.filter_cons, List.filter_cons, isServed_of_isRequestOf hr]
    split
    · rw [List.map_cons, List.map_cons, ih, hr.request_eq]
    · exact ih

/-- The macros that were reached are written as they are asked for. -/
theorem Writes.writtenMacros_eq {calls : List (MacroDefinition × Told)} (h : Writes owner s calls t) :
    writtenMacros s t = (calls.filter fun x =>
      isServed owner s { kind := .functionMacro, details := [.displayName (some x.1.name)] }).map
        fun x => x.1.written x.2 := by
  obtain ⟨asked, hasks, hcalls⟩ := h.asked
  rw [writtenMacros, hasks.requests, List.drop_left, List.filter_comm, map_request_filter hcalls]

theorem allowsTrees_comments : AllowsTrees fun s t => t.comments = s.comments where
  refl _ := rfl
  trans h h' := h'.trans h
  log _ _ := rfl
  quoted _ _ := rfl
  leftOut _ _ := rfl
  add _ _ := rfl
  change _ _ _ _ := rfl
  request _ _ _ _ _ := rfl
  scanner _ _ := rfl
  library _ _ := rfl

/-- **The macros of a scan**: each that is requested, with what the comments before it tell. -/
theorem writtenMacros_scan (owner : Owner) (plan : Plan) (hplan : plan.treesOnly = false) {s s₁ : Session}
    {guarded : List String} (htrees : (scanTrees owner plan).start s = (.ok guarded, s₁))
    (hread : ∀ file ∈ plan.files, (textOf s.environment file).isSome = true)
    (hmacros : ((plan.files.flatMap (definitionsIn s.environment)).map (·.name)).Nodup) :
    ∃ t, (scan owner plan).start s = (.ok ⟨⟩, t) ∧ writtenMacros s t =
      ((plan.files.flatMap (definitionsIn s.environment)).filter (·.isRequested owner guarded s₁)).map fun m =>
        m.written (toldAt s.comments (plan.files.flatMap (piecesIn s.environment)) m) := by
  -- going through trees asked for no macro, read no comment and left the files as they are
  have hkeeps : backdrop s₁ = backdrop s := by
    have hview := keeps_scanTrees owner plan s
    rwa [htrees] at hview
  have hgiven : s₁.environment = s.environment := congrArg Prod.fst hkeeps
  have hbefore : macroRequests s₁ = macroRequests s := congrArg Prod.snd hkeeps
  have hcomments : s₁.comments = s.comments := (leads_scanTrees owner plan allowsTrees_comments).of_start htrees
  have hdefinitions : definitionsOf (plan.files.flatMap (piecesIn s.environment)) =
      plan.files.flatMap (definitionsIn s.environment) := List.filterMap_flatMap
  rw [← hgiven] at hread
  obtain ⟨t, hstart, ht⟩ := start_scanTexts_told owner guarded hread
  refine ⟨t, ?_, ?_⟩
  · rw [scan_eq_scanTrees owner plan hplan, Attempt.start_bind_ok htrees]
    exact hstart
  · have hwritten := ht.writes.writtenMacros_eq
    rw [writtenMacros, hbefore, ← writtenMacros] at hwritten
    rw [hwritten, hgiven, hcomments, reached, asksFor_eq (hdefinitions ▸ hmacros.of_map), hdefinitions,
      List.filter_map, List.filter_map, List.map_map, List.filter_filter]
    exact congrArg (List.map _) (List.filter_congr fun m _ => Bool.and_comm _ _)

/-! ## Two orders of files -/

theorem parameterForm_injective : Function.Injective parameterForm := by
  intro p p' h
  simpa [parameterForm] using h

theorem resultForm_injective : Function.Injective resultForm := by
  intro returns returns' h
  cases returns <;> cases returns' <;> first | rfl | cases h

/-- A request tells the name of the macro, and all that is told of it. -/
theorem eq_of_written_eq {m m' : MacroDefinition} {told told' : Told} (h : m.written told = m'.written told') :
    m.name = m'.name ∧ told = told' := by
  simp only [MacroDefinition.written, Value.list.injEq, Value.dict.injEq, Value.text.injEq, List.cons.injEq,
    Prod.mk.injEq, true_and, and_true] at h
  obtain ⟨hresult, hparams, -, hname, -⟩ := h
  refine ⟨hname, ?_⟩
  cases told
  cases told'
  rw [Told.mk.injEq]
  exact ⟨List.map_injective_iff.mpr parameterForm_injective hparams, resultForm_injective hresult⟩

/-- Macros of different names are written alike in two orders if and only if the same are requested, and the same is
told of them. -/
theorem map_written_perm_iff {definitions definitions' : List MacroDefinition}
    (hperm : definitions'.Perm definitions) (hnames : (definitions.map (·.name)).Nodup)
    (isRequested isRequested' : MacroDefinition → Bool) (told told' : MacroDefinition → Told) :
    ((definitions.filter isRequested).map fun m => m.written (told m)).Perm
        ((definitions'.filter isRequested').map fun m => m.written (told' m)) ↔
      ∀ m ∈ definitions, isRequested m = isRequested' m ∧ (isRequested m = true → told m = told' m) := by
  have hnames' : (definitions'.map (·.name)).Nodup := (hperm.map _).nodup_iff.mpr hnames
  have hnodup {definitions : List MacroDefinition} (hnames : (definitions.map (·.name)).Nodup)
      (isRequested : MacroDefinition → Bool) (told : MacroDefinition → Told) :
      ((definitions.filter isRequested).map fun m => m.written (told m)).Nodup := by
    have hfiltered : ((definitions.filter isRequested).map (·.name)).Nodup :=
      (List.filter_sublist.map _).nodup hnames
    rw [List.Nodup, List.pairwise_map] at hfiltered ⊢
    exact hfiltered.imp fun hne heq => hne (eq_of_written_eq heq).1
  have hsame {m m' : MacroDefinition} (hm : m ∈ definitions) (hm' : m' ∈ definitions) (h : m.name = m'.name) :
      m = m' := List.inj_on_of_nodup_map hnames hm hm' h
  rw [List.perm_ext_iff_of_nodup (hnodup hnames _ _) (hnodup hnames' _ _)]
  simp only [List.mem_map, List.mem_filter, hperm.mem_iff]
  constructor
  · intro h m hm
    -- a macro that is requested in one order is requested in the other, with the same told of it
    have hforth (hrequested : isRequested m = true) : isRequested' m = true ∧ told m = told' m := by
      obtain ⟨m', ⟨hm', hrequested'⟩, heq⟩ := (h (m.written (told m))).mp ⟨m, ⟨hm, hrequested⟩, rfl⟩
      obtain ⟨hname, htold⟩ := eq_of_written_eq heq
      obtain rfl := hsame hm' hm hname
      exact ⟨hrequested', htold.symm⟩
    have hback (hrequested' : isRequested' m = true) : isRequested m = true := by
      obtain ⟨m', ⟨hm', hrequested⟩, heq⟩ := (h (m.written (told' m))).mpr ⟨m, ⟨hm, hrequested'⟩, rfl⟩
      obtain rfl := hsame hm' hm (eq_of_written_eq heq).1
      exact hrequested
    refine ⟨Bool.eq_iff_iff.mpr ⟨fun hrequested => (hforth hrequested).1, hback⟩, ?_⟩
    exact fun hrequested => (hforth hrequested).2
  · intro h v
    refine exists_congr fun m => ?_
    constructor
    · rintro ⟨⟨hm, hrequested⟩, hv⟩
      obtain ⟨heq, htold⟩ := h m hm
      exact ⟨⟨hm, heq ▸ hrequested⟩, htold hrequested ▸ hv⟩
    · rintro ⟨⟨hm, hrequested'⟩, hv⟩
      obtain ⟨heq, htold⟩ := h m hm
      rw [← heq] at hrequested'
      exact ⟨⟨hm, hrequested'⟩, (htold hrequested').symm ▸ hv⟩

/-- **Two orders of the files of a scan ask for the same macros** if and only if the same definitions are taken for
guards or left out, and each comment of a macro in another file stands before the file of the macro in both orders or
in none, unless it tells what was known before the scan. -/
theorem writtenMacros_perm_iff (owner : Owner) (plan : Plan) (hplan : plan.treesOnly = false) {files' : List String}
    (hperm : files'.Perm plan.files) {s s₁ s₁' : Session} {guarded guarded' : List String}
    (htrees : (scanTrees owner plan).start s = (.ok guarded, s₁))
    (htrees' : (scanTrees owner { plan with files := files' }).start s = (.ok guarded', s₁'))
    (hread : ∀ file ∈ plan.files, (textOf s.environment file).isSome = true)
    (hmacros : ((plan.files.flatMap (definitionsIn s.environment)).map (·.name)).Nodup)
    (hcomments : NamedOnce s.environment plan.files) :
    ∃ t t', (scan owner plan).start s = (.ok ⟨⟩, t) ∧
      (scan owner { plan with files := files' }).start s = (.ok ⟨⟩, t') ∧
      ((writtenMacros s t).Perm (writtenMacros s t') ↔ ∀ m ∈ plan.files.flatMap (definitionsIn s.environment),
        m.isRequested owner guarded s₁ = m.isRequested owner guarded' s₁' ∧
        (m.isRequested owner guarded s₁ = true → ∀ file ∈ plan.files, file ≠ m.file →
          ∀ c ∈ commentsIn s.environment file, c.name = some m.name →
          Told.of (some c) ≠ Told.of (s.comments.lookup m.name) →
          (plan.files.idxOf file < plan.files.idxOf m.file ↔ files'.idxOf file < files'.idxOf m.file))) := by
  have hdefinitions := hperm.flatMap_right (definitionsIn s.environment)
  obtain ⟨t, hstart, hwritten⟩ := writtenMacros_scan owner plan hplan htrees hread hmacros
  obtain ⟨t', hstart', hwritten'⟩ := writtenMacros_scan owner { plan with files := files' } hplan htrees'
    (fun file hfile => hread file (hperm.mem_iff.mp hfile)) ((hdefinitions.map _).nodup_iff.mpr hmacros)
  refine ⟨t, t', hstart, hstart', ?_⟩
  rw [hwritten, hwritten', map_written_perm_iff hdefinitions hmacros]
  refine forall₂_congr fun m hm => and_congr_right fun _ => forall_congr' fun _ => ?_
  obtain ⟨file, hfile, hm⟩ := List.mem_flatMap.mp hm
  have hmfile := file_of_mem_definitionsIn hm
  rw [← hmfile] at hfile hm
  exact toldAt_eq_iff hperm hcomments hm hfile s.comments

/-- Reads every comment as that of the macro `F`. -/
def tellsOfF : CommentReader := fun _ file _ _ _ =>
  some { name := some "F", filename := some file, params := [("x", none)], tags := ["returns"] }

/-- A session with a macro in one header and its comment in another. -/
def documentedSession : Session where
  environment :=
    { files := { files := [("/a.h", Text.Utf8.encode "/** */"), ("/b.h", Text.Utf8.encode "#define F(x) x")] }
      units := [{ main := "/a.h" }, { main := "/b.h" }]
      readComment := tellsOfF }
  library := { loaded := true }

/-- A session with three headers. The first includes the second, which includes the third unless it is included itself.
So the third is seen to be guarded only where the second is read on its own. -/
def onceSession : Session where
  environment :=
    { files := { files := [("/w/a.h", Text.Utf8.encode "#include \"b.h\"\n"),
        ("/w/b.h", Text.Utf8.encode "#if __INCLUDE_LEVEL__ == 0\n#include \"c.h\"\n#endif\n"),
        ("/w/c.h", Text.Utf8.encode "#pragma once\n#define F(x) x\n")] }
      units := [{ main := "/w/a.h", includes := [("/w/b.h", 1)] },
        { main := "/w/b.h", includes := [("/w/c.h", 1)], guarded := ["/w/c.h"] }, { main := "/w/c.h" }] }
  library := { loaded := true }

theorem trees_documentedSession :
    ((scanTrees .c { files := ["/a.h", "/b.h"] }).start documentedSession).1.toOption = some [] ∧
      ((scanTrees .c { files := ["/b.h", "/a.h"] }).start documentedSession).1.toOption = some [] := by
  decide +kernel

/-- A comment in another header is not seen if that header comes later. -/
theorem writtenMacros_perm_iff_documented : ∃ t t',
    (scan .c { files := ["/a.h", "/b.h"] }).start documentedSession = (.ok ⟨⟩, t) ∧
    (scan .c { files := ["/b.h", "/a.h"] }).start documentedSession = (.ok ⟨⟩, t') ∧
    ¬(writtenMacros documentedSession t).Perm (writtenMacros documentedSession t') := by
  have htexts : (∀ file ∈ ["/a.h", "/b.h"], (textOf documentedSession.environment file).isSome = true) ∧
      ["/a.h", "/b.h"].flatMap (definitionsIn documentedSession.environment) =
        [⟨"/b.h", "F", "#define F(x) x", 0, true⟩] ∧
      (commentsIn documentedSession.environment "/a.h").map (fun c => (c.name, Told.of (some c))) =
        [(some "F", ⟨["x"], true⟩)] ∧ NamedOnce documentedSession.environment ["/a.h", "/b.h"] := by
    decide +kernel
  obtain ⟨hread, hdefinitions, hcomment, hnames⟩ := htexts
  obtain ⟨s₁, htrees₁⟩ := Attempt.start_of_toOption trees_documentedSession.1
  obtain ⟨s₁', htrees₁'⟩ := Attempt.start_of_toOption trees_documentedSession.2
  obtain ⟨t, t', hstart, hstart', hiff⟩ := writtenMacros_perm_iff .c { files := ["/a.h", "/b.h"] } rfl
    (List.Perm.swap "/a.h" "/b.h" []) htrees₁ htrees₁' hread (by rw [hdefinitions]; decide) hnames
  refine ⟨t, t', hstart, hstart', ?_⟩
  rw [hiff, hdefinitions]
  intro h
  obtain ⟨c, hc, hpair⟩ := List.mem_map.mp (hcomment ▸ List.mem_cons_self)
  obtain ⟨hname, htold⟩ := Prod.mk.inj hpair
  have hdiffers : Told.of (some c) ≠ Told.of (documentedSession.comments.lookup "F") := by
    rw [htold]
    decide
  have horder := (h _ List.mem_cons_self).2 rfl "/a.h" List.mem_cons_self (by decide) c hc hname hdiffers
  exact absurd horder (by decide)

/-- All macros that are reached are requested for the documentation of C. -/
theorem writtenMacros_scan_c {files guarded : List String} (definitions : List MacroDefinition)
    (asked : List (MacroDefinition × Told)) (htrees : ((scanTrees .c { files }).start s).1.toOption = some guarded)
    (htexts : (∀ file ∈ files, (textOf s.environment file).isSome = true) ∧
      files.flatMap (definitionsIn s.environment) = definitions ∧ (definitions.map (·.name)).Nodup ∧
      ((definitions.filter (·.isReached guarded)).map fun m =>
        (m, toldAt s.comments (files.flatMap (piecesIn s.environment)) m)) = asked) :
    ∃ t, (scan .c { files }).start s = (.ok ⟨⟩, t) ∧ writtenMacros s t = asked.map fun x => x.1.written x.2 := by
  obtain ⟨hread, rfl, hmacros, rfl⟩ := htexts
  obtain ⟨s₁, htrees⟩ := Attempt.start_of_toOption htrees
  obtain ⟨t, hstart, hwritten⟩ := writtenMacros_scan .c { files } rfl htrees hread hmacros
  have hall (m : MacroDefinition) : m.isRequested .c guarded s₁ = m.isReached guarded := Bool.and_true _
  simp only [hall] at hwritten
  refine ⟨t, hstart, ?_⟩
  rw [hwritten, List.map_map]
  rfl

/-- The same headers in another order: a macro is taken for a guard if its header was first seen where it is guarded. -/
theorem macros_depend_on_order :
    ∃ t t', (scan .c { files := ["/w/a.h", "/w/b.h", "/w/c.h"] }).start onceSession = (.ok ⟨⟩, t) ∧
      (scan .c { files := ["/w/b.h", "/w/a.h", "/w/c.h"] }).start onceSession = (.ok ⟨⟩, t') ∧
      writtenMacros onceSession t =
        [MacroDefinition.written ⟨"/w/c.h", "F", "#define F(x) x", 1, true⟩ ⟨[], false⟩] ∧
      writtenMacros onceSession t' = [] := by
  have htrees :
      ((scanTrees .c { files := ["/w/a.h", "/w/b.h", "/w/c.h"] }).start onceSession).1.toOption = some [] ∧
        ((scanTrees .c { files := ["/w/b.h", "/w/a.h", "/w/c.h"] }).start onceSession).1.toOption =
          some ["/w/c.h"] := by
    decide +kernel
  obtain ⟨t, hstart, hwritten⟩ := writtenMacros_scan_c [⟨"/w/c.h", "F", "#define F(x) x", 1, true⟩]
    [(⟨"/w/c.h", "F", "#define F(x) x", 1, true⟩, ⟨[], false⟩)] htrees.1 (by decide +kernel)
  obtain ⟨t', hstart', hwritten'⟩ := writtenMacros_scan_c [⟨"/w/c.h", "F", "#define F(x) x", 1, true⟩] []
    htrees.2 (by decide +kernel)
  exact ⟨t, t', hstart, hstart', hwritten, hwritten'⟩

end GirDoc.C
