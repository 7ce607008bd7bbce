import GirDoc.Gir.Format
import GirDoc.Proofs.Gir.Changes
import GirDoc.Proofs.C.Trees

/-!
# What formatting pages leaves connected

A page is written once for each language. Before the first, the search for links and the preparation of symbols are
connected; after the last, the language is given up and they are disconnected. In between, what is written is up to
the common formatter, which may fail. A page ends as its languages do, whatever connecting and disconnecting are
(`start_formatPageBetween`).

* `calls` are the pages and sessions that the common formatter is asked with, one for each language up to the first
  failure.
* `LeavesNoTrace s t` says that all that was connected or chosen since `s` is disconnected and given up in `t`.
* `afterPages` is the session after pages one after the other, and `failures` the number of those that failed.

The main statement is `pages_leave_no_trace_iff`: pages leave no trace if and only if none of them fails, and there is
one handler too many for each that fails.
-/

namespace GirDoc.Gir

open Session

open C (Leads Allows leads_changeSymbol leads_symbol)

/-! ## What is connected -/

/-- What is connected, and the language that is chosen. -/
structure Connections where
  searches : Nat
  symbols : Nat
  titles : Bool
  language : Option String
  voice : Voice

/-- What is connected in a session. -/
def connections (s : Session) : Connections where
  searches := s.searchHandlers
  symbols := s.symbolHandlers
  titles := s.localizesTitles
  language := s.language
  voice := s.voice

/-- The connections when a language was chosen. -/
def Connections.speaking (c : Connections) (language : Option String) : Connections :=
  { c with titles := language.isSome, language, voice := voiceOf language }

/-- A session in which a language was chosen. -/
def inLanguage (s : Session) (language : Option String) : Session := ((setLanguage language).start s).2

theorem connections_inLanguage (s : Session) (language : Option String) :
    connections (inLanguage s language) = (connections s).speaking language := rfl

/-! ## The languages of a page -/

variable (write : Page → Doc Value)

/-- A page that is begun in a language. -/
def Page.named (page : Page) (language : String) : Page :=
  { page with extra := Value.put page.extra "gi-language" (.text language) }

/-- A page with what was written for a language. -/
def Page.with (page : Page) (record : Value) : Page := { page with records := page.records ++ [record] }

/-- The pages and the sessions that the common formatter is asked with, up to the first failure. -/
def calls : List String → Page → Session → List (Page × Session)
  | [], _, _ => []
  | language :: rest, page, s =>
    let answer := (write (page.named language)).start (inLanguage s (some language))
    (page.named language, inLanguage s (some language)) ::
      match answer.1 with
      | .ok record => calls rest ((page.named language).with record) answer.2
      | .error _ => []

variable {write} {page : Page} {language : String} {s t : Session}

theorem start_formatLanguage_ok {record : Value}
    (h : (write (page.named language)).start (inLanguage s (some language)) = (.ok record, t)) :
    (formatLanguage write page language).start s = (.ok ((page.named language).with record), t) := by
  have hset : (setLanguage (some language)).start s = (.ok (), inLanguage s (some language)) := rfl
  rw [formatLanguage, Attempt.start_bind_ok hset]
  exact Attempt.start_bind_ok h

theorem start_formatLanguage_error {e : Fault}
    (h : (write (page.named language)).start (inLanguage s (some language)) = (.error e, t)) :
    (formatLanguage write page language).start s = (.error e, t) := by
  have hset : (setLanguage (some language)).start s = (.ok (), inLanguage s (some language)) := rfl
  rw [formatLanguage, Attempt.start_bind_ok hset]
  exact Attempt.start_bind_error h

/-- The common formatter answers a call. -/
def Answers (write : Page → Doc Value) (call : Page × Session) : Prop :=
  ∃ record, ((write call.1).start call.2).1 = .ok record

/-- A call is made with the handlers of a session, and with the titles of links localized. -/
structure IsCallIn (s : Session) (call : Page × Session) : Prop where
  searches : call.2.searchHandlers = s.searchHandlers
  symbols : call.2.symbolHandlers = s.symbolHandlers
  titles : call.2.localizesTitles = true

/-- How the languages of a page end: with the handlers they began with, and with no failure exactly if every call was
answered. -/
structure EndsFrom (write : Page → Doc Value) (languages : List String) (page : Page) (s : Session)
    (r : Except Fault Page) (t : Session) : Prop where
  searches : t.searchHandlers = s.searchHandlers
  symbols : t.symbolHandlers = s.symbolHandlers
  isCall : ∀ call ∈ calls write languages page s, IsCallIn s call
  answered : (∃ p, r = .ok p) ↔ ∀ call ∈ calls write languages page s, Answers write call
  failed : ∀ e, r = .error e → ∃ l ∈ languages, connections t = (connections s).speaking (some l)

theorem calls_cons_ok {record : Value} (rest : List String)
    (h : (write (page.named language)).start (inLanguage s (some language)) = (.ok record, t)) :
    calls write (language :: rest) page s = (page.named language, inLanguage s (some language)) ::
      calls write rest ((page.named language).with record) t := by
  simp only [calls, h]

theorem calls_cons_error {e : Fault} (rest : List String)
    (h : (write (page.named language)).start (inLanguage s (some language)) = (.error e, t)) :
    calls write (language :: rest) page s = [(page.named language, inLanguage s (some language))] := by
  simp only [calls, h]

/-- **Writing a page in its languages** neither connects nor disconnects, and stops at the first language in which the
common formatter fails. -/
theorem start_formatLanguages (hwrite : ∀ page, C.Keeps connections (write page)) (languages : List String)
    (page : Page) (s : Session) : ∃ r t, (languages.foldlM (formatLanguage write) page).start s = (r, t) ∧
      EndsFrom write languages page s r t := by
  induction languages generalizing page s with
  | nil => exact ⟨.ok page, s, rfl, rfl, rfl, by simp [calls], by simp [calls], by simp⟩
  | cons language rest ih =>
    have hcall : IsCallIn s (page.named language, inLanguage s (some language)) := ⟨rfl, rfl, rfl⟩
    have hkeeps := hwrite (page.named language) (inLanguage s (some language))
    rw [connections_inLanguage] at hkeeps
    rw [List.foldlM_cons]
    rcases hanswer : (write (page.named language)).start (inLanguage s (some language)) with ⟨e | record, t₁⟩
    · rw [hanswer] at hkeeps
      refine ⟨.error e, t₁, Attempt.start_bind_error (start_formatLanguage_error hanswer), ?_⟩
      refine ⟨congrArg Connections.searches hkeeps, congrArg Connections.symbols hkeeps, ?_, ?_, ?_⟩
      · rw [calls_cons_error rest hanswer]
        intro call hmem
        rw [List.mem_singleton] at hmem
        rw [hmem]
        exact hcall
      · simp [calls_cons_error rest hanswer, Answers, hanswer]
      · intro _ _
        exact ⟨language, List.mem_cons_self, hkeeps⟩
    · rw [hanswer] at hkeeps
      have hsearches : t₁.searchHandlers = s.searchHandlers := congrArg Connections.searches hkeeps
      have hsymbols : t₁.symbolHandlers = s.symbolHandlers := congrArg Connections.symbols hkeeps
      obtain ⟨r, t, hstart, hends⟩ := ih ((page.named language).with record) t₁
      refine ⟨r, t, (Attempt.start_bind_ok (start_formatLanguage_ok hanswer)).trans hstart, ?_⟩
      refine ⟨hends.searches.trans hsearches, hends.symbols.trans hsymbols, ?_, ?_, ?_⟩
      · rw [calls_cons_ok rest hanswer]
        intro call hmem
        rcases List.mem_cons.mp hmem with rfl | hmem
        · exact hcall
        · have hin := hends.isCall call hmem
          exact ⟨hin.searches.trans hsearches, hin.symbols.trans hsymbols, hin.titles⟩
      · have hfirst : Answers write (page.named language, inLanguage s (some language)) :=
          ⟨record, congrArg Prod.fst hanswer⟩
        rw [calls_cons_ok rest hanswer, List.forall_mem_cons, hends.answered]
        exact (and_iff_right hfirst).symm
      · intro e he
        obtain ⟨l, hl, hspeaking⟩ := hends.failed e he
        refine ⟨l, List.mem_cons_of_mem _ hl, ?_⟩
        rw [hspeaking, hkeeps]
        rfl

/-! ## One page, whatever connecting does -/

/-- The page that is begun with. -/
def Page.begin (languages : List String) : Page :=
  { extra := [("gi-languages", .text (",".intercalate languages))] }

variable (connect disconnect : Session → Session)

theorem start_formatPageBetween_none (h : (connect s).languages = none) :
    (formatPageBetween connect disconnect write).start s = (.error .wrongType, connect s) := by
  rw [formatPageBetween, Attempt.start_bind_ok (Attempt.start_modify connect s),
    Attempt.start_bind_ok (Attempt.start_get _), h]
  rfl

theorem start_formatPageBetween_some {languages : List String} (h : (connect s).languages = some languages) :
    (formatPageBetween connect disconnect write).start s =
      (languages.foldlM (formatLanguage write) (.begin languages) >>= fun page => do
        setLanguage none
        modify disconnect
        return page).start (connect s) := by
  rw [formatPageBetween, Attempt.start_bind_ok (Attempt.start_modify connect s),
    Attempt.start_bind_ok (Attempt.start_get _), h]
  rfl

/-- **A page ends as its languages do.** Only if none of them fails, the language is given up and what was connected
is disconnected. -/
theorem start_formatPageBetween (hwrite : ∀ page, C.Keeps connections (write page)) {languages : List String}
    (h : (connect s).languages = some languages) :
    ∃ r t, EndsFrom write languages (.begin languages) (connect s) r t ∧
      (formatPageBetween connect disconnect write).start s =
        (r, if r.isOk then disconnect (inLanguage t none) else t) := by
  obtain ⟨r, t, hstart, hends⟩ := start_formatLanguages hwrite languages (.begin languages) (connect s)
  refine ⟨r, t, hends, ?_⟩
  rw [start_formatPageBetween_some connect disconnect h]
  cases r with
  | error e => exact Attempt.start_bind_error hstart
  | ok page => exact Attempt.start_bind_ok hstart

/-! ## One page -/

/-- The calls of the common formatter while a page is written; none if no languages are known. -/
def pageCalls (write : Page → Doc Value) (s : Session) : List (Page × Session) :=
  s.languages.elim [] fun languages => calls write languages (.begin languages) (connected s)

/-- All that was connected or chosen since `s` is disconnected and given up in `t`. -/
structure LeavesNoTrace (s t : Session) : Prop where
  searches : t.searchHandlers = s.searchHandlers
  symbols : t.symbolHandlers = s.symbolHandlers
  titles : t.localizesTitles = false
  language : t.language = none
  fundamentals : fundamentalsOf t.voice = []
  names : t.names.ofVoice t.voice = []

/-- What a page that failed leaves: both handlers once more, and the language that it failed in, if it came to one. -/
structure LeavesConnected (s t : Session) : Prop where
  searches : t.searchHandlers = s.searchHandlers + 1
  symbols : t.symbolHandlers = s.symbolHandlers + 1
  language : s.languages = none ∧ connections t = connections (connected s) ∨
    ∃ languages l, s.languages = some languages ∧ l ∈ languages ∧
      connections t = (connections (connected s)).speaking (some l)

theorem pageCalls_some {languages : List String} (h : s.languages = some languages) :
    pageCalls write s = calls write languages (.begin languages) (connected s) := by
  rw [pageCalls, h, Option.elim_some]

/-- **What a page leaves**, whether it fails or not. -/
theorem start_formatPageWith (hwrite : ∀ page, C.Keeps connections (write page)) (s : Session) :
    ∃ r t, (formatPageWith write).start s = (r, t) ∧
      ((∃ page, r = .ok page) ↔ s.languages.isSome = true ∧ ∀ call ∈ pageCalls write s, Answers write call) ∧
      (∀ page, r = .ok page → LeavesNoTrace s t) ∧ (∀ e, r = .error e → LeavesConnected s t) := by
  cases hlanguages : s.languages with
  | none =>
    refine ⟨_, _, start_formatPageBetween_none connected disconnected hlanguages, by simp, by simp, ?_⟩
    intro e _
    exact ⟨rfl, rfl, Or.inl ⟨hlanguages, rfl⟩⟩
  | some languages =>
    obtain ⟨r, t, hends, hstart⟩ := start_formatPageBetween connected disconnected hwrite hlanguages
    refine ⟨r, _, hstart, ?_, ?_, ?_⟩
    · rw [pageCalls_some hlanguages, ← hends.answered]
      simp
    · rintro page rfl
      -- connecting adds one handler of each sort, and disconnecting takes one away
      have hsearches : t.searchHandlers - 1 = s.searchHandlers := by
        rw [hends.searches]
        rfl
      have hsymbols : t.symbolHandlers - 1 = s.symbolHandlers := by
        rw [hends.symbols]
        rfl
      exact ⟨hsearches, hsymbols, rfl, rfl, rfl, rfl⟩
    · rintro e rfl
      obtain ⟨l, hl, hspeaking⟩ := hends.failed e rfl
      exact ⟨hends.searches, hends.symbols, Or.inr ⟨languages, l, hlanguages, hl, hspeaking⟩⟩

theorem isCallIn_pageCalls (hwrite : ∀ page, C.Keeps connections (write page)) {call : Page × Session}
    (h : call ∈ pageCalls write s) : IsCallIn (connected s) call := by
  cases hlanguages : s.languages with
  | none =>
    rw [pageCalls, hlanguages] at h
    cases h
  | some languages =>
    rw [pageCalls_some hlanguages] at h
    obtain ⟨r, t, -, hends⟩ := start_formatLanguages hwrite languages (.begin languages) (connected s)
    exact hends.isCall call h

/-! ## What is written for symbols and links -/

theorem allowsMembers_connections : AllowsMembers fun s t => connections t = connections s where
  refl _ := rfl
  trans h h' := h'.trans h
  log _ _ := rfl
  quoted _ _ := rfl
  leftOut _ _ := rfl
  add _ _ := rfl
  change _ _ _ _ := rfl
  request _ _ _ _ _ := rfl
  names _ _ := rfl
  comments _ _ := rfl

theorem keeps_dropContent (id : SymbolId) (key : String) : C.Keeps connections (dropContent id key) := by
  have hall := allowsMembers_connections.toAllows
  refine hall.bind (leads_symbol hall id) fun x => ?_
  split
  · exact hall.throw _
  · exact hall.throw _
  · exact leads_changeSymbol hall id fun _ => rfl

theorem keeps_explainAnnotations (id : SymbolId) : C.Keeps connections (explainAnnotations id) := by
  have hall := allowsMembers_connections.toAllows
  refine hall.bind (hall.bind hall.get fun _ => hall.pure _) fun isC => ?_
  split
  · refine hall.bind (leads_symbol hall id) fun x => ?_
    dsimp only
    split
    · exact fun _ => rfl
    · refine hall.bind (fun _ => rfl) fun _ => ?_
      split
      · exact hall.throw _
      · exact leads_setContent hall id _ _
  · exact keeps_dropContent id _

theorem keeps_isIntrospectable (name : Option String) : C.Keeps connections (isIntrospectable name) := by
  have hall := allowsMembers_connections.toAllows
  refine hall.bind (hall.bind hall.get fun _ => hall.pure _) fun found => ?_
  split
  · exact hall.pure _
  refine hall.bind hall.get fun s => ?_
  split
  · exact hall.pure _
  · split
    · exact hall.pure _
    · split
      · exact hall.bind (leads_addNames allowsMembers_connections _ _) fun _ => hall.pure _
      · exact hall.pure _

theorem keeps_prepareSymbol (slot : SymbolSlot) : C.Keeps connections (prepareSymbol slot) := by
  have hall := allowsMembers_connections.toAllows
  refine hall.bind (hall.need _ _) fun id => hall.bind hall.get fun s => ?_
  refine hall.bind (leads_changeSymbol hall id fun _ => rfl) fun _ => hall.bind (leads_symbol hall id) fun x => ?_
  have hbelongs : C.Keeps connections (do
      if x.kind.isQualified then return true
      if s.language ≠ some "c" then isIntrospectable x.uniqueName else return true) := by
    split
    · exact hall.pure _
    · split
      · exact keeps_isIntrospectable _
      · exact hall.pure _
  dsimp only
  by_cases hitem : (x.kind = .returnItem || x.kind = .parameter) = true
  · rw [if_pos hitem]
    exact hall.bind (keeps_explainAnnotations id) fun _ => hbelongs
  · rw [if_neg hitem]
    exact hbelongs

/-- Whatever symbols and links a page has, nothing is connected or disconnected while it is written. -/
theorem keeps_pageRecord (symbols : List SymbolSlot) (links : List String) (page : Page) :
    C.Keeps connections (pageRecord symbols links page) := by
  have hall := allowsMembers_connections.toAllows
  refine hall.bind hall.get fun s => hall.bind (hall.mapM fun slot _ => ?_) fun _ => hall.bind hall.get fun _ => ?_
  · refine hall.bind (hall.mapM fun _ _ => ?_) fun _ => hall.pure _
    exact hall.bind (keeps_prepareSymbol slot) fun _ => hall.pure _
  · exact hall.pure _

/-! ## Pages one after the other -/

/-- The session after a page, whatever became of it. -/
def afterPage (s : Session) (write : Page → Doc Value) : Session := ((formatPageWith write).start s).2

/-- The session after pages one after the other. -/
def afterPages (writes : List (Page → Doc Value)) (s : Session) : Session := writes.foldl afterPage s

/-- How many of these pages fail. -/
def failures : List (Page → Doc Value) → Session → Nat
  | [], _ => 0
  | write :: rest, s =>
    (if ((formatPageWith write).start s).1.isOk then 0 else 1) + failures rest (afterPage s write)

theorem handlers_afterPage (hwrite : ∀ page, C.Keeps connections (write page)) (s : Session) :
    (afterPage s write).searchHandlers = s.searchHandlers + failures [write] s ∧
      (afterPage s write).symbolHandlers = s.symbolHandlers + failures [write] s := by
  obtain ⟨r, t, hstart, -, hok, herror⟩ := start_formatPageWith hwrite s
  simp only [afterPage, failures, hstart]
  cases r with
  | ok page => exact ⟨(hok page rfl).searches, (hok page rfl).symbols⟩
  | error e => exact ⟨(herror e rfl).searches, (herror e rfl).symbols⟩

/-- Each page that fails leaves both handlers connected once more. -/
theorem handlers_afterPages {writes : List (Page → Doc Value)}
    (hwrites : ∀ write ∈ writes, ∀ page, C.Keeps connections (write page)) (s : Session) :
    (afterPages writes s).searchHandlers = s.searchHandlers + failures writes s ∧
      (afterPages writes s).symbolHandlers = s.symbolHandlers + failures writes s := by
  induction writes generalizing s with
  | nil => exact ⟨rfl, rfl⟩
  | cons write rest ih =>
    obtain ⟨hsearches, hsymbols⟩ := handlers_afterPage (hwrites write List.mem_cons_self) s
    obtain ⟨hsearches', hsymbols'⟩ := ih (fun w hw => hwrites w (List.mem_cons_of_mem _ hw)) (afterPage s write)
    simp only [failures] at hsearches hsymbols ⊢
    rw [afterPages, List.foldl_cons, ← afterPages, hsearches', hsymbols']
    omega

theorem afterPages_append (writes : List (Page → Doc Value)) (write : Page → Doc Value) (s : Session) :
    afterPages (writes ++ [write]) s = afterPage (afterPages writes s) write := by
  rw [afterPages, List.foldl_append]
  rfl

theorem failures_append (writes : List (Page → Doc Value)) (write : Page → Doc Value) (s : Session) :
    failures (writes ++ [write]) s = failures writes s + failures [write] (afterPages writes s) := by
  induction writes generalizing s with
  | nil => exact (Nat.zero_add _).symm
  | cons first rest ih =>
    rw [List.cons_append, failures, failures, ih, Nat.add_assoc]
    rfl

/-- The last page leaves no trace of itself, if it does not fail. -/
theorem leavesNoTrace_afterPage (hwrite : ∀ page, C.Keeps connections (write page)) (h : failures [write] s = 0) :
    LeavesNoTrace s (afterPage s write) := by
  obtain ⟨r, t, hstart, -, hok, -⟩ := start_formatPageWith hwrite s
  simp only [afterPage, failures, hstart] at h ⊢
  cases r with
  | ok page => exact hok page rfl
  | error e => simp [Except.isOk, Except.toBool] at h

theorem leavesNoTrace_afterPages_iff {writes : List (Page → Doc Value)}
    (hwrites : ∀ write ∈ writes, ∀ page, C.Keeps connections (write page)) (hne : writes ≠ []) (s : Session) :
    LeavesNoTrace s (afterPages writes s) ↔ failures writes s = 0 := by
  constructor
  · intro h
    have hsearches := (handlers_afterPages hwrites s).1
    rw [h.searches] at hsearches
    omega
  · intro h
    obtain ⟨before, last, hconcat⟩ := (List.eq_nil_or_concat writes).resolve_left hne
    rw [List.concat_eq_append] at hconcat
    subst hconcat
    rw [failures_append] at h
    have hlast := leavesNoTrace_afterPage (hwrites last (by simp)) (s := afterPages before s) (by omega)
    obtain ⟨hsearches, hsymbols⟩ := handlers_afterPages hwrites s
    rw [failures_append, h] at hsearches hsymbols
    rw [afterPages_append] at hsearches hsymbols ⊢
    exact ⟨hsearches, hsymbols, hlast.titles, hlast.language, hlast.fundamentals, hlast.names⟩

/-- **Pages leave no trace if and only if none of them fails**. A page does not fail if the languages are known and
every call of the common formatter is answered; one that fails leaves its handlers and the language it failed in. So
while a page is written, each handler is connected once, and once more for each page that failed before. -/
theorem pages_leave_no_trace_iff (writes : List (Page → Doc Value))
    (hwrites : ∀ write ∈ writes, ∀ page, C.Keeps connections (write page)) (s : Session) :
    (writes ≠ [] → (LeavesNoTrace s (afterPages writes s) ↔ failures writes s = 0)) ∧
      ∀ write : Page → Doc Value, (∀ page, C.Keeps connections (write page)) →
        ∃ r t, (formatPageWith write).start (afterPages writes s) = (r, t) ∧
          ((∃ page, r = .ok page) ↔ (afterPages writes s).languages.isSome = true ∧
            ∀ call ∈ pageCalls write (afterPages writes s), Answers write call) ∧
          (∀ e, r = .error e → LeavesConnected (afterPages writes s) t) ∧
          ∀ call ∈ pageCalls write (afterPages writes s),
            call.2.searchHandlers = s.searchHandlers + failures writes s + 1 ∧
              call.2.symbolHandlers = s.symbolHandlers + failures writes s + 1 ∧ call.2.localizesTitles = true := by
  refine ⟨fun hne => leavesNoTrace_afterPages_iff hwrites hne s, fun write hwrite => ?_⟩
  obtain ⟨hsearches, hsymbols⟩ := handlers_afterPages hwrites s
  obtain ⟨r, t, hstart, hanswered, -, hfailed⟩ := start_formatPageWith hwrite (afterPages writes s)
  refine ⟨r, t, hstart, hanswered, hfailed, ?_⟩
  intro call hcall
  have hin := isCallIn_pageCalls hwrite hcall
  rw [hin.searches, hin.symbols, ← hsearches, ← hsymbols]
  exact ⟨rfl, rfl, hin.titles⟩

/-- A session with C as the only language. -/
def onlyC : Session := { environment := {}, languages := some ["c"] }

/-- Three pages in C, of which the second has a symbol that is not there. -/
def brokenPages : List (Page → Doc Value) :=
  [pageRecord [] ["x"], pageRecord [none] [], pageRecord [] ["x"]]

theorem keeps_brokenPages : ∀ write ∈ brokenPages, ∀ page, C.Keeps connections (write page) := by
  intro write hmem
  simp only [brokenPages, List.mem_cons, List.not_mem_nil, or_false] at hmem
  rcases hmem with rfl | rfl | rfl <;> exact keeps_pageRecord _ _

theorem pages_leave_no_trace_iff_brokenPages : failures (brokenPages.take 1) onlyC = 0 ∧
    LeavesNoTrace onlyC (afterPages (brokenPages.take 1) onlyC) ∧ failures brokenPages onlyC = 1 ∧
    ¬LeavesNoTrace onlyC (afterPages brokenPages onlyC) := by
  have hfirst : failures (brokenPages.take 1) onlyC = 0 := by decide
  have hall : failures brokenPages onlyC = 1 := by decide
  refine ⟨hfirst, ?_, hall, ?_⟩
  · have hkept : ∀ write ∈ brokenPages.take 1, ∀ page, C.Keeps connections (write page) :=
      fun write hmem => keeps_brokenPages write (List.mem_of_mem_take hmem)
    exact ((pages_leave_no_trace_iff _ hkept onlyC).1 (by simp [brokenPages])).mpr hfirst
  · intro h
    have hnone := ((pages_leave_no_trace_iff _ keeps_brokenPages onlyC).1 (by simp [brokenPages])).mp h
    rw [hall] at hnone
    cases hnone

/-- A page with a symbol that is not there leaves its handlers and its language, and the link of the next page is
searched twice. -/
theorem page_with_missing_symbol_leaves_trace : ∃ t, (formatPage [none] []).start onlyC = (.error .noSuchPart, t) ∧
    (t.searchHandlers, t.symbolHandlers, t.localizesTitles, t.language) = (1, 1, true, some "c") ∧
    (((formatPage [] ["x"]).start t).1.toOption.map (·.records)) = some [.dict [("language", .text "c"),
      ("extra", .dict [("gi-languages", .text "c"), ("gi-language", .text "c")]), ("symbols", .list []),
      ("links", .list [.list [.null, .null]])]] := by
  exact ⟨_, rfl, rfl, rfl⟩

end GirDoc.Gir
