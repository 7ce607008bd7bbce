import GirDoc.Gir.Format
import GirDoc.Proofs.Database
import GirDoc.Proofs.Gir.Members

/-!
# Titles of links after other callbacks

While pages are written, the session is asked for titles and references of links and for symbols to be prepared, now
in one language and then in another. The names of a symbol in all languages are noted when it is first asked whether
other languages can use the symbol, so the tables of names depend on what was asked before.

* `noteName` is what one such question does to the tables, and `noteAll` what many do. Only whether a name was asked
  about matters for what is found under it (`agreeAt_noteAll`).
* `Callback.asks` tells which name a callback asks about, and `asked` which ones a history asks about. A history does
  nothing else to what titles depend on (`after_history`).
* In every language but C the title of a link is looked for after the question was asked, so it is the same after all
  histories. In C the question is not asked, and the title can depend on whether it was before
  (`titles_agree_iff`).
-/

namespace GirDoc.Gir

open Session Xml

open C (Leads)

/-! ## Noting names -/

/-- What is found under a name in the table of a voice. -/
def Names.find? (names : Names) (voice : Voice) (name : String) : Option String :=
  (names.ofVoice voice).lookup name

/-- The tables after it was asked about a name: its names are noted, unless they were before, or there is no element
that tells them. -/
def noteName (x : Index) (names : Names) (name : String) : Names :=
  match x.node? name with
  | none => names
  | some n =>
    if (names.c.lookup name).isSome then names
    else match nameParts n with
      | .ok parts => withNames names n name parts
      | .error _ => names

/-- The tables after it was asked about names, one after the other. -/
def noteAll (x : Index) (names : Names) (asked : List String) : Names := asked.foldl (noteName x) names

/-- There is an element that tells the names of a symbol. -/
def IsNameable (x : Index) (name : String) : Prop :=
  ∃ n parts, x.node? name = some n ∧ nameParts n = .ok parts ∧
    ((n.attribute? (c "identifier")).isSome ∨ (n.attribute? (c "type")).isSome)

/-- The same is found under a name in all tables. -/
def AgreeAt (name : String) (names names' : Names) : Prop := ∀ voice, names.find? voice name = names'.find? voice name

section Names

variable {x : Index} {names names' names'' : Names} {n : Node} {name name' : String} {parts : List String}

theorem AgreeAt.refl (name : String) (names : Names) : AgreeAt name names names := fun _ => rfl

theorem AgreeAt.trans (h : AgreeAt name names names') (h' : AgreeAt name names' names'') :
    AgreeAt name names names'' := fun voice => (h voice).trans (h' voice)

theorem AgreeAt.c (h : AgreeAt name names names') : names.c.lookup name = names'.c.lookup name := h .c

/-- The names of a symbol are put under its name alone. -/
theorem agreeAt_withNames_of_ne (hne : name' ≠ name) (names : Names) (n : Node) (parts : List String) :
    AgreeAt name' (withNames names n name parts) names := by
  intro voice
  unfold withNames
  dsimp only
  split
  · cases voice <;> simp [Names.find?, Names.ofVoice, Value.lookup_put, hne]
  split
  · cases voice <;> simp [Names.find?, Names.ofVoice, Value.lookup_put, hne]
  · rfl

/-- What is put under the name of a symbol depends on its element alone. -/
theorem AgreeAt.withNames (h : AgreeAt name names names') (n : Node) (parts : List String) :
    AgreeAt name (withNames names n name parts) (withNames names' n name parts) := by
  intro voice
  unfold Gir.withNames
  dsimp only
  split
  · cases voice <;> simp [Names.find?, Names.ofVoice, Value.lookup_put]
  split
  · cases voice <;> simp [Names.find?, Names.ofVoice, Value.lookup_put]
  · exact h voice

theorem lookup_withNames (hn : (n.attribute? (c "identifier")).isSome ∨ (n.attribute? (c "type")).isSome)
    (names : Names) (name : String) (parts : List String) :
    (withNames names n name parts).c.lookup name = some name := by
  unfold withNames
  dsimp only
  split
  · simp [Value.lookup_put]
  split
  · simp [Value.lookup_put]
  · next hid htype => exact (hn.elim hid htype).elim

theorem noteName_of_isSome (x : Index) (h : (names.c.lookup name).isSome) : noteName x names name = names := by
  unfold noteName
  split
  · rfl
  · exact if_pos h

theorem agreeAt_noteName_of_ne (hne : name' ≠ name) (x : Index) (names : Names) :
    AgreeAt name' (noteName x names name) names := by
  unfold noteName
  split
  · exact AgreeAt.refl _ _
  split
  · exact AgreeAt.refl _ _
  split
  · exact agreeAt_withNames_of_ne hne _ _ _
  · exact AgreeAt.refl _ _

theorem AgreeAt.noteName_self (h : AgreeAt name names names') (x : Index) :
    AgreeAt name (noteName x names name) (noteName x names' name) := by
  unfold Gir.noteName
  rw [h.c]
  split
  · exact h
  split
  · exact h
  split
  · exact h.withNames _ _
  · exact h

/-- The names are noted of what can be named. -/
theorem lookup_noteName (hname : IsNameable x name) (hnone : names.c.lookup name = none) :
    (noteName x names name).c.lookup name = some name := by
  obtain ⟨n, parts, hnode, hparts, hn⟩ := hname
  rw [noteName, hnode]
  simp only [hnone, Option.isSome_none, Bool.false_eq_true, if_false, hparts]
  exact lookup_withNames hn names name parts

/-- Nothing changes for what cannot be named. -/
theorem noteName_of_not (hname : ¬ IsNameable x name) (names : Names) : noteName x names name = names := by
  unfold noteName
  split
  · rfl
  · next n hnode =>
    split
    · rfl
    split
    · next parts hparts =>
      have hid : ¬ (n.attribute? (c "identifier")).isSome = true := fun h =>
        hname ⟨n, parts, hnode, hparts, .inl h⟩
      have htype : ¬ (n.attribute? (c "type")).isSome = true := fun h =>
        hname ⟨n, parts, hnode, hparts, .inr h⟩
      unfold withNames
      dsimp only
      rw [if_neg hid, if_neg htype]
    · rfl

/-- Asking about a name for the second time changes nothing. -/
theorem noteName_noteName (x : Index) (names : Names) (name : String) :
    noteName x (noteName x names name) name = noteName x names name := by
  by_cases hname : IsNameable x name
  · refine noteName_of_isSome x ?_
    cases hlookup : names.c.lookup name with
    | none => rw [lookup_noteName hname hlookup]; rfl
    | some value =>
      have hsome : (names.c.lookup name).isSome := by rw [hlookup]; rfl
      rw [noteName_of_isSome x hsome]
      exact hsome
  · rw [noteName_of_not hname, noteName_of_not hname]

/-- **What is found under a name depends on whether it was asked about, and not on when and how often.** -/
theorem agreeAt_noteAll (x : Index) (names : Names) (asked : List String) (name : String) :
    AgreeAt name (noteAll x names asked) (if name ∈ asked then noteName x names name else names) := by
  induction asked generalizing names with
  | nil => exact AgreeAt.refl _ _
  | cons a rest ih =>
    refine (ih (noteName x names a)).trans ?_
    by_cases ha : name = a
    · subst ha
      rw [noteName_noteName, ite_self, if_pos List.mem_cons_self]
      exact AgreeAt.refl _ _
    · have hother := agreeAt_noteName_of_ne ha x names
      by_cases hrest : name ∈ rest
      · rw [if_pos hrest, if_pos (List.mem_cons_of_mem a hrest)]
        exact hother.noteName_self x
      · rw [if_neg hrest, if_neg fun hmem => (List.mem_cons.mp hmem).elim ha hrest]
        exact hother

/-- Asking about a name once more makes up for whether it was asked about before. -/
theorem agreeAt_noteName_noteAll (x : Index) (names : Names) (asked : List String) (name : String) :
    AgreeAt name (noteName x (noteAll x names asked) name) (noteName x names name) := by
  refine ((agreeAt_noteAll x names asked name).noteName_self x).trans ?_
  split
  · rw [noteName_noteName]
    exact AgreeAt.refl _ _
  · exact AgreeAt.refl _ _

end Names

/-! ## Asking whether other languages can use a symbol -/

/-- Whether other languages can use a symbol that is no fundamental type. The question fails if it is the first about
the symbol and its element has no name. -/
def usable (x : Index) (names : Names) (name : String) : Except Fault Bool :=
  match x.node? name with
  | none => .ok false
  | some n =>
    if (names.c.lookup name).isSome then .ok (n.attribute? "introspectable" ≠ some "0")
    else match nameParts n with
      | .ok _ => .ok (n.attribute? "introspectable" ≠ some "0")
      | .error e => .error e

/-- The answer is the same after it was asked about any names. -/
theorem usable_noteAll (x : Index) (names : Names) (asked : List String) (name : String) :
    usable x (noteAll x names asked) name = usable x names name := by
  have hcongr {names' names'' : Names} (h : AgreeAt name names' names'') :
      usable x names' name = usable x names'' name := by
    rw [usable, usable, h.c]
  have hnoted : usable x (noteName x names name) name = usable x names name := by
    by_cases hname : IsNameable x name
    · cases hlookup : names.c.lookup name with
      | none =>
        -- once the names are noted the name of the element is not asked for, but it has one
        have hfound := lookup_noteName hname hlookup
        obtain ⟨n, parts, hnode, hparts, -⟩ := hname
        simp only [usable, hnode, hlookup, hfound, hparts]
        rfl
      | some value => rw [noteName_of_isSome x (by rw [hlookup]; rfl)]
    · rw [noteName_of_not hname]
  have hagree := hcongr (agreeAt_noteAll x names asked name)
  split at hagree
  · exact hagree.trans hnoted
  · exact hagree

variable {s t u : Session}

theorem start_fundamental?_eq (t : Session) (name : Option String) :
    (fundamental? name).start t = (.ok (tableValue? (fundamentalsOf t.voice) name), t) := rfl

/-- A fundamental type can be used, and nothing is noted of it. -/
theorem start_isIntrospectable_fundamental {name : Option String}
    (h : (tableValue? (fundamentalsOf t.voice) name).isSome) : (isIntrospectable name).start t = (.ok true, t) := by
  rw [isIntrospectable, Attempt.start_bind_ok (start_fundamental?_eq t name), if_pos h]
  rfl

theorem start_isIntrospectable_some {name : String} (h : (fundamentalsOf t.voice).lookup name = none) :
    (isIntrospectable (some name)).start t =
      (usable t.index t.names name, { t with names := noteName t.index t.names name }) := by
  have hfund : (tableValue? (fundamentalsOf t.voice) (some name)).isSome ≠ true := by
    simp [tableValue?, h]
  rw [isIntrospectable, Attempt.start_bind_ok (start_fundamental?_eq t _), if_neg hfund,
    Attempt.start_bind_ok (Attempt.start_get t)]
  dsimp only
  unfold usable noteName
  cases t.index.node? name with
  | none => rfl
  | some n =>
    cases hlookup : t.names.c.lookup name with
    | some value => rfl
    | none =>
      cases hparts : nameParts n with
      | ok parts =>
        simp only [addNames, hparts]
        rfl
      | error e =>
        simp only [addNames, hparts]
        rfl

/-- A name that stands for no fundamental type in a voice. -/
def unknownName? (voice : Voice) (name : Option String) : Option String :=
  name.filter fun name => ((fundamentalsOf voice).lookup name).isNone

/-- What the question does to a session. -/
theorem session_isIntrospectable (t : Session) (name : Option String) : ((isIntrospectable name).start t).2 =
    { t with names := noteAll t.index t.names (unknownName? t.voice name).toList } := by
  cases name with
  | none => rfl
  | some name =>
    cases hlookup : (fundamentalsOf t.voice).lookup name with
    | none =>
      rw [start_isIntrospectable_some hlookup]
      simp [unknownName?, Option.filter, hlookup, noteAll]
    | some f =>
      rw [start_isIntrospectable_fundamental (by simp [tableValue?, hlookup])]
      simp [unknownName?, Option.filter, hlookup, noteAll]

/-! ## Callbacks -/

/-- What a session is asked for while pages are written. -/
inductive Callback where
  /-- A language is chosen, or none. -/
  | language (language : Option String)
  /-- The title of a link is asked for. -/
  | title (link : Link)
  /-- It is asked where a link leads. -/
  | ref (link : Link)
  /-- A symbol is prepared for a page. -/
  | symbol (slot : SymbolSlot)

namespace Callback

/-- The session that a callback leaves, whether it succeeds or not. -/
def session (s : Session) : Callback → Session
  | language l => ((setLanguage l).start s).2
  | title link => ((linkTitle link).start s).2
  | ref link => ((linkRef link).start s).2
  | symbol slot => ((prepareSymbol slot).start s).2

/-- The session with the language that a callback chooses, and nothing else done. -/
def chosen (s : Session) : Callback → Session
  | language l => ((setLanguage l).start s).2
  | _ => s

/-- The name of which a callback asks whether other languages can use it. Nothing is asked in C, of fundamental
types and typed items, and of links whose page and reference are not looked at. -/
def asks (s : Session) : Callback → Option String
  | language _ => none
  | title link => if s.language = some "c" then none else unknownName? s.voice link.id
  | ref link =>
    if s.language = none ∨ s.language = some "c" ∨ tableValue? s.environment.pages link.id ≠ some pageOwner ∨
      link.ref.getD "" = "" then none
    else unknownName? s.voice link.id
  | symbol slot => (slot.bind s.database.get?).bind fun x =>
    if s.language = some "c" ∨ x.kind.isQualified then none else unknownName? s.voice x.uniqueName

end Callback

/-- The names that a history asks about. -/
def asked : Session → List Callback → List String
  | _, [] => []
  | s, callback :: rest => (callback.asks s).toList ++ asked (callback.chosen s) rest

/-- What a question about a symbol depends on. -/
def aspect (x : Symbol) : SymbolKind × Option String := (x.kind, x.uniqueName)

/-- The session `t` is `s` after it was asked about names: they are noted, and what questions and titles depend on is
as it was. -/
structure After (names : List String) (s t : Session) : Prop where
  environment : t.environment = s.environment
  index : t.index = s.index
  onlineLinks : t.onlineLinks = s.onlineLinks
  language : t.language = s.language
  voice : t.voice = s.voice
  symbols : ∀ id, (t.database.get? id).map aspect = (s.database.get? id).map aspect
  names : t.names = noteAll s.index s.names names

namespace After

variable {names names' : List String}

theorem refl (s : Session) : After [] s s := ⟨rfl, rfl, rfl, rfl, rfl, fun _ => rfl, rfl⟩

theorem trans (h : After names s t) (h' : After names' t u) : After (names ++ names') s u where
  environment := h'.environment.trans h.environment
  index := h'.index.trans h.index
  onlineLinks := h'.onlineLinks.trans h.onlineLinks
  language := h'.language.trans h.language
  voice := h'.voice.trans h.voice
  symbols id := (h'.symbols id).trans (h.symbols id)
  names := by rw [h'.names, h.index, h.names, noteAll, noteAll, noteAll, List.foldl_append]

theorem noted (s : Session) (names : List String) : After names s { s with names := noteAll s.index s.names names } :=
  ⟨rfl, rfl, rfl, rfl, rfl, fun _ => rfl, rfl⟩

/-- A change to a symbol that leaves its kind and its name. -/
theorem change (s : Session) (id : SymbolId) {f : Symbol → Symbol} (hf : ∀ x, aspect (f x) = aspect x) :
    After [] s { s with database := s.database.modify id f } := by
  refine ⟨rfl, rfl, rfl, rfl, rfl, fun id' => ?_, rfl⟩
  show ((s.database.modify id f).get? id').map aspect = _
  rw [Database.get?_modify]
  split
  · rw [Option.map_map]
    exact congrArg (fun g => (s.database.get? id').map g) (funext hf)
  · rfl

/-- The same is asked in both sessions. -/
theorem asks_eq (h : After names s t) (callback : Callback) : callback.asks t = callback.asks s := by
  cases callback with
  | language l => rfl
  | title link => simp only [Callback.asks, h.language, h.voice]
  | ref link => simp only [Callback.asks, h.language, h.voice, h.environment]
  | symbol slot =>
    cases slot with
    | none => rfl
    | some id =>
      have hid := h.symbols id
      simp only [Callback.asks, Option.bind_some, h.language, h.voice]
      cases hs : s.database.get? id with
      | none =>
        rw [hs, Option.map_none, Option.map_eq_none_iff] at hid
        rw [hid]
      | some x =>
        rw [hs, Option.map_some, Option.map_eq_some_iff] at hid
        obtain ⟨y, hy, heq⟩ := hid
        obtain ⟨hkind, hname⟩ := Prod.mk.inj heq
        simp only [hy, Option.bind_some, hkind, hname]

theorem chosen (h : After names s t) (callback : Callback) : After names (callback.chosen s) (callback.chosen t) := by
  cases callback with
  | language l => exact ⟨h.environment, h.index, h.onlineLinks, rfl, rfl, h.symbols, h.names⟩
  | _ => exact h

end After

/-! ## What one callback does -/

theorem after_isIntrospectable (t : Session) (name : Option String) :
    After (unknownName? t.voice name).toList t ((isIntrospectable name).start t).2 := by
  rw [session_isIntrospectable]
  exact After.noted t _

/-- What follows a step and leaves a session as it is makes no difference to it. -/
theorem session_bind {α β : Type} {m : Doc α} {k : α → Doc β} (hk : ∀ a s, ((k a).start s).2 = s) (s : Session) :
    ((m >>= k).start s).2 = (m.start s).2 := by
  rw [Attempt.start_bind]
  rcases m.start s with ⟨_ | a, t⟩
  · rfl
  · exact hk a t

/-- The title that the tables give a link: the name of the symbol in the language chosen. In C, what installed
documentation knows is called by its name. -/
def tableTitle (link : Link) (s : Session) : Option String :=
  match (tableValue? (s.names.ofVoice s.voice) link.id).filter (!·.isEmpty) with
  | some name => some name
  | none => if s.language = some "c" ∧ (tableValue? s.onlineLinks link.id).isSome then link.id else none

/-- The title of a link, once it is known whether other languages can use what it leads to. -/
def titleGiven (link : Link) (s : Session) : Except Fault Bool → Except Fault (Option String)
  | .ok true => .ok (tableTitle link s)
  | .ok false => match link.givenTitle with
    | some title => .ok (some (title ++ " (not introspectable)"))
    | none => .error .wrongType
  | .error e => .error e

theorem start_localName? (t : Session) (name : Option String) :
    (localName? name).start t = (.ok (tableValue? (t.names.ofVoice t.voice) name), t) := rfl

theorem start_linkTitle_fundamental {link f : Link} (hfund : tableValue? (fundamentalsOf t.voice) link.id = some f) :
    (linkTitle link).start t = (.ok f.givenTitle, t) := by
  rw [linkTitle, Attempt.start_bind_ok (start_fundamental?_eq t link.id), hfund]
  rfl

/-- In C the tables are looked up at once. -/
theorem start_linkTitle_c {link : Link} (hfund : tableValue? (fundamentalsOf t.voice) link.id = none)
    (hc : t.language = some "c") : (linkTitle link).start t = (.ok (tableTitle link t), t) := by
  rw [linkTitle, Attempt.start_bind_ok (start_fundamental?_eq t link.id), hfund]
  dsimp only
  rw [Attempt.start_bind_ok (Attempt.start_get t)]
  simp only [hc, decide_true, Bool.not_true, Bool.false_eq_true, if_false, Bool.true_and]
  rw [Attempt.start_bind_ok (start_localName? t link.id), tableTitle, hc]
  cases Option.filter (fun name => !name.isEmpty) (tableValue? (t.names.ofVoice t.voice) link.id) with
  | some name => rfl
  | none =>
    dsimp only
    rw [Attempt.start_bind_ok (Attempt.start_get t)]
    by_cases honline : (tableValue? t.onlineLinks link.id).isSome
    · rw [if_pos honline, if_pos ⟨rfl, honline⟩]
      rfl
    · rw [if_neg honline, if_neg fun h => honline h.2]
      rfl

/-- In other languages it is asked first whether they can use what the link leads to. -/
theorem start_linkTitle_other {link : Link} (hfund : tableValue? (fundamentalsOf t.voice) link.id = none)
    (hc : t.language ≠ some "c") (hu : ((isIntrospectable link.id).start t).2 = u) :
    (linkTitle link).start t = (titleGiven link u ((isIntrospectable link.id).start t).1, u) := by
  have hlanguage : u.language ≠ some "c" := by
    rw [← hu, (after_isIntrospectable t link.id).language]
    exact hc
  rw [linkTitle, Attempt.start_bind_ok (start_fundamental?_eq t link.id), hfund]
  dsimp only
  rw [Attempt.start_bind_ok (Attempt.start_get t)]
  simp only [hc, decide_false, Bool.not_false, if_true, Bool.false_and]
  rcases hstart : (isIntrospectable link.id).start t with ⟨e | usable, u'⟩
  · rw [Attempt.start_bind_error hstart]
    rw [hstart] at hu
    rw [← hu]
    rfl
  · rw [Attempt.start_bind_ok hstart]
    obtain rfl : u' = u := by rw [← hu, hstart]
    cases usable with
    | false =>
      rw [titleGiven]
      cases link.givenTitle <;> rfl
    | true =>
      simp only [Bool.not_true, Bool.false_eq_true, if_false]
      rw [Attempt.start_bind_ok (start_localName? u' link.id), titleGiven, tableTitle]
      cases Option.filter (fun name => !name.isEmpty) (tableValue? (u'.names.ofVoice u'.voice) link.id) with
      | some name => rfl
      | none =>
        simp only [hlanguage, false_and]
        rfl

theorem unknownName?_of_fundamental {voice : Voice} {name : Option String}
    (h : (tableValue? (fundamentalsOf voice) name).isSome) : unknownName? voice name = none := by
  cases name with
  | none => rfl
  | some name =>
    cases hlookup : (fundamentalsOf voice).lookup name with
    | none => simp [tableValue?, hlookup] at h
    | some f => simp [unknownName?, Option.filter, hlookup]

theorem after_title (t : Session) (link : Link) :
    After ((Callback.title link).asks t).toList t ((linkTitle link).start t).2 := by
  cases hfund : tableValue? (fundamentalsOf t.voice) link.id with
  | some f =>
    have hnone : (Callback.title link).asks t = none := by
      rw [Callback.asks, unknownName?_of_fundamental (by rw [hfund]; rfl), ite_self]
    rw [start_linkTitle_fundamental hfund, hnone]
    exact After.refl t
  | none =>
    by_cases hc : t.language = some "c"
    · rw [start_linkTitle_c hfund hc, Callback.asks, if_pos hc]
      exact After.refl t
    · rw [start_linkTitle_other hfund hc rfl, Callback.asks, if_neg hc]
      exact after_isIntrospectable t link.id

theorem session_refIn (link : Link) (language : String) (s : Session) : ((refIn link language).start s).2 = s := by
  rw [refIn, session_bind fun ref s => ?_]
  · cases link.ref <;> rfl
  · rw [session_bind fun env s => ?_]
    · rfl
    · rw [Attempt.start_ofExcept]

theorem session_firstLanguage (s : Session) : (firstLanguage.start s).2 = s := by
  rw [firstLanguage, Attempt.start_bind_ok (Attempt.start_get s), session_bind fun languages s => ?_]
  · cases s.languages <;> rfl
  · cases languages.head? <;> rfl

theorem session_map {α β : Type} (m : Doc α) (f : α → β) (s : Session) :
    ((do return f (← m) : Doc β).start s).2 = (m.start s).2 :=
  session_bind (fun _ _ => rfl) s

theorem after_ref (t : Session) (link : Link) :
    After ((Callback.ref link).asks t).toList t ((linkRef link).start t).2 := by
  have hpage : (hasPage link.id).start t =
      (.ok (decide (tableValue? t.environment.pages link.id = some pageOwner)), t) := rfl
  rw [linkRef, Attempt.start_bind_ok hpage, Attempt.start_bind_ok (Attempt.start_get t), Callback.asks]
  cases hlanguage : t.language with
  | none =>
    rw [if_pos (.inl rfl)]
    dsimp only
    split
    · rw [session_bind fun language s => by rw [session_map, session_refIn], session_firstLanguage]
      exact After.refl t
    · exact After.refl t
  | some language =>
    dsimp only
    rw [Attempt.start_bind_ok (start_fundamental?_eq t link.id)]
    cases hfund : tableValue? (fundamentalsOf t.voice) link.id with
    | some f =>
      rw [unknownName?_of_fundamental (by rw [hfund]; rfl), ite_self]
      exact After.refl t
    | none =>
      by_cases hours : tableValue? t.environment.pages link.id = some pageOwner
      · simp only [hours, decide_true, if_true]
        by_cases hasked : language ≠ "c" ∧ link.ref.getD "" ≠ ""
        · rw [if_neg (by simp [hasked.1, hasked.2]), if_pos (by simp [hasked.1, hasked.2])]
          rw [session_bind fun usable s => ?_]
          · exact after_isIntrospectable t link.id
          · split
            · rw [session_map, session_refIn]
            · rw [session_map, session_refIn]
        · rw [if_pos (by simpa [Classical.or_iff_not_imp_left] using hasked), if_neg (by simpa [and_comm] using hasked)]
          rw [session_map, session_refIn]
          exact After.refl t
      · rw [if_pos (.inr (.inr (.inl hours))), if_neg (by simpa using hours)]
        cases link.ref <;> exact After.refl t

theorem leads_after_bind {α β : Type} {m : Doc α} {k : α → Doc β} (hm : Leads (After []) m)
    (hk : ∀ a, Leads (After []) (k a)) : Leads (After []) (m >>= k) := by
  intro s
  have hs := hm s
  rw [Attempt.start_bind]
  rcases hstart : m.start s with ⟨_ | a, t⟩
  · rw [hstart] at hs
    exact hs
  · rw [hstart] at hs
    exact hs.trans (hk a t)

theorem session_symbol (id : SymbolId) (s : Session) : ((symbol id).start s).2 = s := by
  rw [symbol, Attempt.start_bind_ok (Attempt.start_get s)]
  cases s.database.get? id <;> rfl

theorem leads_after_symbol (id : SymbolId) : Leads (After []) (symbol id) := by
  intro s
  rw [session_symbol]
  exact After.refl s

/-- Explaining the annotations of an item changes its content. -/
theorem leads_after_explainAnnotations (id : SymbolId) : Leads (After []) (explainAnnotations id) := by
  have hset (key : String) (v : Value) : Leads (After []) (setContent id key v) := by
    refine leads_after_bind (leads_after_symbol id) fun x => ?_
    split
    · exact After.refl
    · exact fun s => After.change s id fun _ => rfl
  have hdrop (key : String) : Leads (After []) (dropContent id key) := by
    refine leads_after_bind (leads_after_symbol id) fun x => ?_
    split
    · exact After.refl
    · exact After.refl
    · exact fun s => After.change s id fun _ => rfl
  have hprint (lines : List String) : Leads (After []) (printLines lines) :=
    fun s => ⟨rfl, rfl, rfl, rfl, rfl, fun _ => rfl, rfl⟩
  unfold explainAnnotations
  refine leads_after_bind After.refl fun inC => ?_
  split
  · refine leads_after_bind (leads_after_symbol id) fun x => ?_
    dsimp only
    split
    · exact After.refl
    · refine leads_after_bind (hprint _) fun _ => ?_
      split
      · exact After.refl
      · exact hset _ _
  · exact hdrop _

theorem after_symbol (t : Session) (slot : SymbolSlot) :
    After ((Callback.symbol slot).asks t).toList t ((prepareSymbol slot).start t).2 := by
  cases slot with
  | none => exact After.refl t
  | some id =>
    rw [prepareSymbol, Attempt.start_bind_ok (Attempt.start_need_some _ _ _),
      Attempt.start_bind_ok (Attempt.start_get t)]
    dsimp only
    -- the symbol is given the language, and has its kind and its name after that
    have hchange := After.change t id (f := fun x => { x with language := t.language }) fun _ => rfl
    rw [changeSymbol, Attempt.start_bind_ok (Attempt.start_modify _ _), ← hchange.asks_eq]
    refine hchange.trans ?_
    generalize hu : ({ t with database := t.database.modify id fun x => { x with language := t.language } } : Session)
      = u at hchange ⊢
    rw [← hchange.language, Callback.asks, Option.bind_some, symbol, bind_assoc,
      Attempt.start_bind_ok (Attempt.start_get u)]
    cases u.database.get? id with
    | none => exact After.refl u
    | some x =>
      rw [Attempt.start_bind_ok (Attempt.start_need_some _ _ _), Option.bind_some]
      by_cases hkind : x.kind.isQualified
      · simp only [hkind, or_true, if_true]
        split
        · exact leads_after_bind (leads_after_explainAnnotations id) (k := fun _ => pure true) (fun _ => After.refl) u
        · exact After.refl u
      · have hitem : ¬ (decide (x.kind = .returnItem) || decide (x.kind = .parameter)) = true := by
          intro h
          simp only [SymbolKind.isQualified, Bool.or_eq_true] at h hkind
          tauto
        rw [if_neg hitem, if_neg hkind]
        by_cases hc : u.language = some "c"
        · rw [if_neg (not_not.mpr hc), if_pos (.inl hc)]
          exact After.refl u
        · rw [if_pos hc, if_neg fun h => h.elim hc hkind]
          exact after_isIntrospectable u x.uniqueName

/-- **What a callback does:** it chooses a language, or the names of what it asks about are noted. -/
theorem After.callback {names : List String} (h : After names s t) (callback : Callback) :
    After (names ++ (callback.asks s).toList) (callback.chosen s) (callback.session t) := by
  refine (h.chosen callback).trans ?_
  rw [← h.asks_eq callback]
  cases callback with
  | language l => exact After.refl _
  | title link => exact after_title t link
  | ref link => exact after_ref t link
  | symbol slot => exact after_symbol t slot

/-- **What a history does:** the names that it asks about are noted. -/
theorem after_history {names : List String} (h : After names s t) (history : List Callback) :
    After (names ++ asked s history) (history.foldl Callback.chosen s) (history.foldl Callback.session t) := by
  induction history generalizing names s t with
  | nil =>
    rw [asked, List.append_nil]
    exact h
  | cons callback rest ih =>
    rw [asked, ← List.append_assoc]
    exact ih (h.callback callback)

/-! ## Titles -/

/-- The title of a link in a language, after a history. -/
def titleAfter (s : Session) (history : List Callback) (language : Option String) (link : Link) :
    Except Fault (Option String) :=
  ((do setLanguage language; linkTitle link : Doc (Option String)).start (history.foldl Callback.session s)).1

/-- The session in which a language was chosen. -/
def speaking (s : Session) (language : Option String) : Session :=
  { s with language, localizesTitles := language.isSome, voice := voiceOf language }

theorem titleAfter_eq (s : Session) (history : List Callback) (language : Option String) (link : Link) :
    titleAfter s history language link =
      ((linkTitle link).start (speaking (history.foldl Callback.session s) language)).1 := rfl

/-- The language that was chosen before makes no difference. -/
theorem speaking_chosen (s : Session) (history : List Callback) (language : Option String) :
    speaking (history.foldl Callback.chosen s) language = speaking s language := by
  induction history generalizing s with
  | nil => rfl
  | cons callback rest ih =>
    refine (ih (callback.chosen s)).trans ?_
    cases callback <;> rfl

theorem after_speaking (s : Session) (history : List Callback) (language : Option String) :
    After (asked s history) (speaking s language) (speaking (history.foldl Callback.session s) language) := by
  have hlanguage := (after_history (After.refl s) history).chosen (.language language)
  rw [← speaking_chosen s history language]
  exact hlanguage

theorem tableTitle_congr {link : Link} {id : String} (hid : link.id = some id) (hlanguage : t.language = s.language)
    (hvoice : t.voice = s.voice) (honline : t.onlineLinks = s.onlineLinks) (hnames : AgreeAt id t.names s.names) :
    tableTitle link t = tableTitle link s := by
  have hfind : tableValue? (t.names.ofVoice t.voice) link.id = tableValue? (s.names.ofVoice s.voice) link.id := by
    rw [hid, hvoice]
    exact hnames s.voice
  rw [tableTitle, tableTitle, hfind, hlanguage, honline]

/-- **In every language but C, titles are the same after it was asked about any names.** -/
theorem After.linkTitle_other {names : List String} (h : After names s t) (hc : s.language ≠ some "c") (link : Link) :
    ((linkTitle link).start t).1 = ((linkTitle link).start s).1 := by
  cases hfund : tableValue? (fundamentalsOf s.voice) link.id with
  | some f =>
    rw [start_linkTitle_fundamental hfund, start_linkTitle_fundamental (by rw [h.voice]; exact hfund)]
  | none =>
    rw [start_linkTitle_other hfund hc rfl,
      start_linkTitle_other (by rw [h.voice]; exact hfund) (by rw [h.language]; exact hc) rfl]
    cases hid : link.id with
    | none => rfl
    | some id =>
      have hnone : (fundamentalsOf s.voice).lookup id = none := by rwa [hid] at hfund
      rw [start_isIntrospectable_some hnone, start_isIntrospectable_some (by rw [h.voice]; exact hnone)]
      rw [h.index, h.names, usable_noteAll]
      -- the question has made up for what was noted before
      have htitle := tableTitle_congr (s := { s with names := noteName s.index s.names id })
        (t := { t with names := noteName s.index (noteAll s.index s.names names) id }) hid h.language h.voice
        h.onlineLinks (agreeAt_noteName_noteAll s.index s.names names id)
      cases usable s.index s.names id with
      | error e => rfl
      | ok answer =>
        cases answer with
        | false => rfl
        | true => exact congrArg Except.ok htitle

/-- A symbol whose title in C comes from the table of names alone, and which is not in the table as long as it was not
asked about. -/
structure IsLate (s : Session) (id : String) : Prop where
  named : id ≠ ""
  nameable : IsNameable s.index id
  unnoted : s.names.c.lookup id = none
  offline : s.onlineLinks.lookup id = none

theorem start_linkTitle_speaking_c (t : Session) (link : Link) :
    ((linkTitle link).start (speaking t (some "c"))).1 = .ok (tableTitle link (speaking t (some "c"))) := by
  rw [start_linkTitle_c ?_ rfl]
  cases link.id <;> rfl

/-- The title in C: the name in the table, else that of what installed documentation knows. -/
theorem tableTitle_speaking_c {link : Link} {id : String} (hid : link.id = some id) (t : Session) :
    tableTitle link (speaking t (some "c")) = ((t.names.c.lookup id).filter (!·.isEmpty)).or
      (if (t.onlineLinks.lookup id).isSome then some id else none) := by
  have hname : tableValue? ((speaking t (some "c")).names.ofVoice (speaking t (some "c")).voice) link.id =
      t.names.c.lookup id := by rw [hid]; rfl
  have honline : tableValue? (speaking t (some "c")).onlineLinks link.id = t.onlineLinks.lookup id := by
    rw [hid]
    rfl
  have hlanguage : (speaking t (some "c")).language = some "c" := rfl
  rw [tableTitle, hname, honline, hid]
  cases (t.names.c.lookup id).filter (!·.isEmpty) with
  | some name => rfl
  | none =>
    rw [Option.none_or]
    exact if_congr (and_iff_right hlanguage) rfl rfl

/-- Asking about a symbol changes its title in C exactly if the title comes from nowhere else. -/
theorem tableTitle_noteName_iff {link : Link} {id : String} (hid : link.id = some id) (s : Session) :
    tableTitle link (speaking { s with names := noteName s.index s.names id } (some "c")) =
      tableTitle link (speaking s (some "c")) ↔ ¬ IsLate s id := by
  rw [tableTitle_speaking_c hid, tableTitle_speaking_c hid]
  dsimp only
  constructor
  · intro htitle hlate
    have hempty : id.isEmpty = false := by simpa using hlate.named
    rw [lookup_noteName hlate.nameable hlate.unnoted, hlate.unnoted, hlate.offline] at htitle
    simp [Option.filter, hempty] at htitle
  · intro hlate
    by_cases hname : IsNameable s.index id
    · cases hlookup : s.names.c.lookup id with
      | some name => rw [noteName_of_isSome s.index (by rw [hlookup]; rfl), hlookup]
      | none =>
        rw [lookup_noteName hname hlookup]
        cases honline : s.onlineLinks.lookup id with
        | some ref => by_cases hempty : id = "" <;> simp [Option.filter, hempty]
        | none =>
          have hempty : id = "" := by
            by_contra hne
            exact hlate ⟨hne, hname, hlookup, honline⟩
          simp [Option.filter, hempty]
    · rw [noteName_of_not hname]

/-- **The title of a link is the same after two histories in every language but C. In C it is, unless the link leads to
a symbol whose title comes from the table of names alone and one history asks about the symbol and the other does
not.** -/
theorem titles_agree_iff (s : Session) (history history' : List Callback) (language : Option String) (link : Link) :
    titleAfter s history language link = titleAfter s history' language link ↔
      (language = some "c" → ∀ id, link.id = some id → IsLate s id →
        (id ∈ asked s history ↔ id ∈ asked s history')) := by
  have hafter := after_speaking s history language
  have hafter' := after_speaking s history' language
  rw [titleAfter_eq, titleAfter_eq]
  by_cases hc : language = some "c"
  · subst hc
    rw [start_linkTitle_speaking_c, start_linkTitle_speaking_c, Except.ok.injEq]
    cases hid : link.id with
    | none => simp [tableTitle, hid, tableValue?]
    | some id =>
      -- the title depends on whether it was asked about the symbol
      have htitle {history : List Callback} (h : After (asked s history) (speaking s (some "c"))
          (speaking (history.foldl Callback.session s) (some "c"))) :
          tableTitle link (speaking (history.foldl Callback.session s) (some "c")) =
            if id ∈ asked s history then
              tableTitle link (speaking { s with names := noteName s.index s.names id } (some "c"))
            else tableTitle link (speaking s (some "c")) := by
        have hagree := agreeAt_noteAll s.index s.names (asked s history) id
        split
        · next hmem =>
          rw [if_pos hmem] at hagree
          refine tableTitle_congr hid h.language h.voice h.onlineLinks ?_
          rw [h.names]
          exact hagree
        · next hmem =>
          rw [if_neg hmem] at hagree
          refine tableTitle_congr hid h.language h.voice h.onlineLinks ?_
          rw [h.names]
          exact hagree
      have hlate := tableTitle_noteName_iff hid s
      rw [htitle hafter, htitle hafter']
      by_cases hmem : id ∈ asked s history <;> by_cases hmem' : id ∈ asked s history' <;>
        simp [hmem, hmem', hlate, eq_comm (a := tableTitle link (speaking s (some "c")))]
  · have hother : (speaking s language).language ≠ some "c" := hc
    rw [hafter.linkTitle_other hother, hafter'.linkTitle_other hother]
    simp [hc]

/-- A function and nothing else. -/
def oneFunction : Element :=
  .mk (core "repository") [] [.mk (core "namespace")
    [("name", "N"), (c "identifier-prefixes", "N"), (c "symbol-prefixes", "n")]
    [.mk (core "function") [("name", "foo"), (c "identifier", "n_foo")] []]]

/-- A session that has read the function. -/
def oneFunctionRead : Session where
  environment := {}
  index := indexOf oneFunction

/-- A link to the function. -/
def toFunction : Link where
  ref := some "page.html"
  title := some "a title"
  id := some "n_foo"

/-- **A title in C that depends on what was asked before.** Before it was asked about the function the link keeps its
own title in C. After its title in another language was asked for, it is called by its name in C. -/
theorem title_depends_on_history :
    (titleAfter oneFunctionRead [] (some "c") toFunction).toOption = some none ∧
    (titleAfter oneFunctionRead [.language (some "python"), .title toFunction] (some "c") toFunction).toOption =
      some (some "n_foo") := by
  decide +kernel

end GirDoc.Gir
