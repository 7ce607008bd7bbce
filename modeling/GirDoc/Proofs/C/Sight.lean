import Mathlib.Data.List.Basic
import GirDoc.C.Scan
import GirDoc.Proofs.Attempt
import GirDoc.Proofs.Database

/-!
# What declarations depend on

Whether a declaration gets a symbol depends on little of a session: on what it was given, on the index, on the
lines of the sources, and on which names were found and left out before. The database, the log and all else
make no difference.

* `Same s s'` says that two sessions do not differ in any of these. `Grows u s t` says what can have changed
  from `s` to `t`: names of nodes of the unit were found, and names that the index makes superfluous were
  left out (`IsDroppedForGood`).
* `Alike u m m' Q` says that two steps do the same in sessions that are the same: both succeed or both fail
  for the same reason, the sessions stay the same and have only grown, and the results are related by `Q`.

`Alike` is kept by doing one step after the other (`Alike.bind`, `Alike.mapM`), so one lemma for each kind of
declaration is enough (`alike_declared`).
-/

namespace GirDoc

/-- The names of the nodes of a unit. -/
def Ast.SourceUnit.spellings (u : Ast.SourceUnit) : List String :=
  "" :: u.cursors.toList.map Ast.CursorData.spelling

theorem Ast.SourceUnit.spelling_mem (u : Ast.SourceUnit) (c : Ast.CursorRef) :
    (u.cursor c).spelling ∈ u.spellings := by
  cases c with
  | null => exact List.mem_cons_self
  | noDecl => exact List.mem_cons_self
  | node i =>
    rw [Ast.SourceUnit.cursor]
    rcases hi : u.cursors[i]? with _ | d
    · exact List.mem_cons_self
    · refine List.mem_cons_of_mem _ (List.mem_map.mpr ⟨d, ?_, rfl⟩)
      exact Array.mem_toList_iff.mpr (Array.mem_of_getElem? hi)

end GirDoc

namespace GirDoc.Gir

/-! ## Verdicts that are kept -/

/-- The verdict on a symbol alone leaves it out, and is kept for its name. -/
def IsDroppedForGood (x : Index) (kind : SymbolKind) (name : Option String) : Prop :=
  ∃ message, freshVerdict x kind name = .dropOnce message

/-- A structure that only the introspected code itself uses. -/
def IsPrivateStructure (x : Index) (name : String) : Prop :=
  ∃ n, x.node? name = some n ∧ (n.attribute? (glib "is-gtype-struct-for")).getD "" = "" ∧
    n.attribute? "disguised" = some "1"

theorem structVerdict_eq_dropOnce_iff {x : Index} {name : String} :
    (∃ message, structVerdict x name = .dropOnce message) ↔ IsPrivateStructure x name := by
  unfold structVerdict IsPrivateStructure
  cases x.node? name with
  | none => simp
  | some n =>
    by_cases hclass : (n.attribute? (glib "is-gtype-struct-for")).getD "" = ""
    · by_cases hprivate : n.attribute? "disguised" = some "1" <;> simp [hclass, hprivate]
    · simp [hclass]

/-- **The verdicts that are kept** are those on macros and type functions of classes, whatever they are requested as,
and on private structures that are requested as structures. -/
theorem isDroppedForGood_iff {x : Index} {kind : SymbolKind} {name : Option String} :
    IsDroppedForGood x kind name ↔ name ∈ x.macroNames.map some ∨ name ∈ x.typeFunctions ∨
      kind = .struct ∧ ∃ text, name = some text ∧ IsPrivateStructure x text := by
  unfold IsDroppedForGood freshVerdict
  by_cases hmacros : name ∈ x.macroNames.map some
  · simp [hmacros]
  by_cases htype : name ∈ x.typeFunctions
  · simp [hmacros, htype]
  rw [if_neg hmacros, if_neg htype]
  simp only [hmacros, htype, false_or]
  cases name with
  | none => simp
  | some text =>
    by_cases hkind : kind = .struct
    · simp [hkind, structVerdict_eq_dropOnce_iff]
    · simp only [hkind, if_false, false_and, iff_false]
      rintro ⟨message, h⟩
      split at h <;> cases h

variable {x : Index} {kind : SymbolKind} {name : Option String}

/-- What is left out for good as anything is left out for good as a structure. -/
theorem IsDroppedForGood.struct (h : IsDroppedForGood x kind name) : IsDroppedForGood x .struct name := by
  rcases isDroppedForGood_iff.mp h with hmacros | htype | ⟨-, hprivate⟩
  · exact isDroppedForGood_iff.mpr (.inl hmacros)
  · exact isDroppedForGood_iff.mpr (.inr (.inl htype))
  · exact isDroppedForGood_iff.mpr (.inr (.inr ⟨rfl, hprivate⟩))

/-- A name of which a verdict is kept is one that the index makes superfluous. -/
theorem IsDroppedForGood.mem_superfluous (h : IsDroppedForGood x kind name) : name ∈ x.superfluous := by
  rcases isDroppedForGood_iff.mp h with hmacros | htype | ⟨-, text, rfl, n, hn, -⟩
  · exact List.mem_append_left _ (List.mem_append_left _ hmacros)
  · exact List.mem_append_left _ (List.mem_append_right _ htype)
  · exact List.mem_append_right _ (List.mem_map.mpr ⟨_, Value.mem_of_lookup hn, rfl⟩)

theorem isDroppedForGood_of_verdict {leftOut : List (Option String)} {message : String}
    (h : verdict x leftOut kind name = .dropOnce message) : IsDroppedForGood x kind name := by
  unfold verdict at h
  split at h
  · cases h
  · exact ⟨message, h⟩

end GirDoc.Gir

namespace GirDoc.C

open Ast Session

/-! ## Sessions that are the same to a walk -/

/-- The lines of a source, as they are quoted. -/
def linesOf (s : Session) (file : String) : Except SourceEncoding.Failure (List String) :=
  match s.quoted.lookup file with
  | some lines => .ok lines
  | none => (SourceLines.quotable s.environment.files file).map (·.getD [])

/-- The names of the symbols found so far. -/
def names (s : Session) : List String := s.scanner.found.map Prod.fst

/-- What does not change while declarations are gone through. -/
structure Setting where
  environment : Environment
  index : Gir.Index
  leavesOut : Bool
  lines : String → Except SourceEncoding.Failure (List String)

/-- The setting of a session. -/
def settingOf (s : Session) : Setting := ⟨s.environment, s.index, s.leavesOut, linesOf s⟩

/-- Two sessions are the same to a walk. -/
structure Same (s s' : Session) : Prop where
  setting : settingOf s = settingOf s'
  found : ∀ name, name ∈ names s ↔ name ∈ names s'
  leftOut : ∀ name, name ∈ s.leftOut ↔ name ∈ s'.leftOut

/-- What a walk through a unit can change. -/
structure Grows (u : SourceUnit) (s t : Session) : Prop where
  setting : settingOf t = settingOf s
  found : names s ⊆ names t
  found_new : ∀ name ∈ names t, name ∈ names s ∨ name ∈ u.spellings
  leftOut : s.leftOut ⊆ t.leftOut
  leftOut_new : ∀ name ∈ t.leftOut, name ∈ s.leftOut ∨ ∃ kind, Gir.IsDroppedForGood s.index kind name

/-- Nothing changed that a walk can see. -/
structure Quiet (s t : Session) : Prop where
  setting : settingOf t = settingOf s
  scanner : t.scanner = s.scanner
  leftOut : t.leftOut = s.leftOut

variable {s s' t t' : Session} {u : SourceUnit}

theorem Same.refl (s : Session) : Same s s := ⟨rfl, fun _ => Iff.rfl, fun _ => Iff.rfl⟩

theorem Same.symm (h : Same s s') : Same s' s :=
  ⟨h.setting.symm, fun name => (h.found name).symm, fun name => (h.leftOut name).symm⟩

theorem Same.trans {s'' : Session} (h : Same s s') (h' : Same s' s'') : Same s s'' :=
  ⟨h.setting.trans h'.setting, fun name => (h.found name).trans (h'.found name),
    fun name => (h.leftOut name).trans (h'.leftOut name)⟩

theorem Same.index (h : Same s s') : s.index = s'.index := congrArg Setting.index h.setting

theorem Grows.index (h : Grows u s t) : t.index = s.index := congrArg Setting.index h.setting

theorem Grows.refl (u : SourceUnit) (s : Session) : Grows u s s :=
  ⟨rfl, List.Subset.refl _, fun _ => Or.inl, List.Subset.refl _, fun _ => Or.inl⟩

theorem Grows.trans {t' : Session} (h : Grows u s t) (h' : Grows u t t') : Grows u s t' where
  setting := h'.setting.trans h.setting
  found := List.Subset.trans h.found h'.found
  found_new name hname := (h'.found_new name hname).elim (h.found_new name) Or.inr
  leftOut := List.Subset.trans h.leftOut h'.leftOut
  leftOut_new name hname := by
    rcases h'.leftOut_new name hname with hold | hnew
    · exact h.leftOut_new name hold
    · exact Or.inr (h.index ▸ hnew)

theorem Quiet.refl (s : Session) : Quiet s s := ⟨rfl, rfl, rfl⟩

theorem Quiet.grows (h : Quiet s t) (u : SourceUnit) : Grows u s t where
  setting := h.setting
  found := by rw [names, names, h.scanner]; exact List.Subset.refl _
  found_new name hname := Or.inl (by rw [names, h.scanner] at hname; exact hname)
  leftOut := by rw [h.leftOut]; exact List.Subset.refl _
  leftOut_new name hname := Or.inl (h.leftOut ▸ hname)

theorem Same.quiet (h : Same s s') (ht : Quiet s t) (ht' : Quiet s' t') : Same t t' where
  setting := by rw [ht.setting, ht'.setting, h.setting]
  found name := by
    rw [names, names, ht.scanner, ht'.scanner]
    exact h.found name
  leftOut name := by
    rw [ht.leftOut, ht'.leftOut]
    exact h.leftOut name

/-! ## Steps that do the same -/

variable {α β : Type}

/-- Two steps do the same in sessions that are the same, with results related by `Q`. -/
def Alike (u : SourceUnit) (m m' : Doc α) (Q : Session → α → Session → α → Prop) : Prop :=
  ∀ ⦃s s'⦄, Same s s' →
    (∃ a t a' t', m.start s = (.ok a, t) ∧ m'.start s' = (.ok a', t') ∧
      Same t t' ∧ Grows u s t ∧ Q t a t' a') ∨
    ∃ e t t', m.start s = (.error e, t) ∧ m'.start s' = (.error e, t') ∧ Same t t' ∧ Grows u s t

/-- Results of which nothing is asked. -/
def Any : Session → α → Session → α → Prop := fun _ _ _ _ => True

/-- Results that are equal. -/
def Equal : Session → α → Session → α → Prop := fun _ a _ a' => a = a'

variable {m m' : Doc α} {Q R : Session → α → Session → α → Prop}

theorem Alike.mono (h : Alike u m m' Q) (hQ : ∀ t a t' a', Q t a t' a' → R t a t' a') :
    Alike u m m' R := by
  intro s s' hs
  rcases h hs with ⟨a, t, a', t', hm, hm', ht, hg, hq⟩ | herror
  · exact Or.inl ⟨a, t, a', t', hm, hm', ht, hg, hQ t a t' a' hq⟩
  · exact Or.inr herror

theorem Alike.any (h : Alike u m m' Q) : Alike u m m' Any := h.mono fun _ _ _ _ _ => trivial

theorem alike_pure {a a' : α} (h : ∀ t t', Q t a t' a') : Alike u (pure a) (pure a') Q :=
  fun s s' hs => Or.inl ⟨a, s, a', s', rfl, rfl, hs, Grows.refl u s, h s s'⟩

theorem alike_ofExcept (r : Except Fault α) : Alike u (Attempt.ofExcept r) (Attempt.ofExcept r) Equal := by
  intro s s' hs
  cases r with
  | ok a => exact Or.inl ⟨a, s, a, s', rfl, rfl, hs, Grows.refl u s, rfl⟩
  | error e => exact Or.inr ⟨e, s, s', rfl, rfl, hs, Grows.refl u s⟩

/-- What is needed is there in both or in neither. -/
theorem alike_need (e : Fault) {a a' : Option α} (h : a.isSome = a'.isSome) :
    Alike u (Attempt.need e a) (Attempt.need e a') Any := by
  intro s s' hs
  cases a <;> cases a'
  · exact Or.inr ⟨e, s, s', rfl, rfl, hs, Grows.refl u s⟩
  · cases h
  · cases h
  · exact Or.inl ⟨_, s, _, s', rfl, rfl, hs, Grows.refl u s, trivial⟩

theorem alike_needSame (e : Fault) (a : Option α) :
    Alike u (Attempt.need e a) (Attempt.need e a) Equal := by
  cases a with
  | none => exact alike_ofExcept (.error e)
  | some a => exact alike_ofExcept (.ok a)

/-- One step after the other. The second may depend on the result of the first, but not on the session that
it is found in. -/
theorem Alike.bind {P : α → α → Prop} {k k' : α → Doc β} {Q : Session → β → Session → β → Prop}
    (h : Alike u m m' fun _ a _ a' => P a a') (hk : ∀ a a', P a a' → Alike u (k a) (k' a') Q) :
    Alike u (m >>= k) (m' >>= k') Q := by
  intro s s' hs
  rcases h hs with ⟨a, t, a', t', hm, hm', ht, hg, hp⟩ | ⟨e, t, t', hm, hm', ht, hg⟩
  · rw [Attempt.start_bind_ok hm, Attempt.start_bind_ok hm']
    rcases hk a a' hp ht with ⟨b, v, b', v', hb, hb', hv, hg', hq⟩ | ⟨e, v, v', hb, hb', hv, hg'⟩
    · exact Or.inl ⟨b, v, b', v', hb, hb', hv, hg.trans hg', hq⟩
    · exact Or.inr ⟨e, v, v', hb, hb', hv, hg.trans hg'⟩
  · rw [Attempt.start_bind_error hm, Attempt.start_bind_error hm']
    exact Or.inr ⟨e, t, t', rfl, rfl, ht, hg⟩

/-- A step whose result is the same is followed by the same. -/
theorem Alike.then {k k' : α → Doc β} {Q : Session → β → Session → β → Prop}
    (h : Alike u m m' Equal) (hk : ∀ a, Alike u (k a) (k' a) Q) : Alike u (m >>= k) (m' >>= k') Q :=
  h.bind fun a _ he => he ▸ hk a

theorem Alike.mapM {f : α → Doc β} {items : List α} (h : ∀ a ∈ items, Alike u (f a) (f a) Any) :
    Alike u (items.mapM f) (items.mapM f) Any := by
  induction items with
  | nil => exact alike_pure fun _ _ => trivial
  | cons a rest ih =>
    rw [List.mapM_cons]
    refine (h a List.mem_cons_self).bind fun b b' _ => ?_
    refine (ih fun a ha => h a (List.mem_cons_of_mem _ ha)).bind fun bs bs' _ => ?_
    exact alike_pure fun _ _ => trivial

/-- What a step does to one session. -/
theorem Alike.grows (h : Alike u m m Q) {r : Except Fault α} (hm : m.start s = (r, t)) : Grows u s t := by
  rcases h (Same.refl s) with ⟨_, _, _, _, h₁, -, -, hg, -⟩ | ⟨_, _, _, h₁, -, -, hg⟩
  all_goals
    cases h₁.symm.trans hm
    exact hg

/-! ## Steps that change nothing that a walk can see -/

theorem alike_modify {f f' : Session → Session} (h : ∀ s, Quiet s (f s)) (h' : ∀ s, Quiet s (f' s)) :
    Alike u (modify f) (modify f') Any :=
  fun s s' hs => Or.inl ⟨_, f s, _, f' s', rfl, rfl, hs.quiet (h s) (h' s'), (h s).grows u, trivial⟩

/-- A change of the database. -/
theorem quiet_database (s : Session) (db : Database) : Quiet s { s with database := db } := ⟨rfl, rfl, rfl⟩

theorem alike_addSymbol (x x' : Symbol) : Alike u (addSymbol x) (addSymbol x') Any :=
  fun _ _ hs => Or.inl ⟨_, _, _, _, rfl, rfl,
    hs.quiet (quiet_database _ _) (quiet_database _ _), (quiet_database _ _).grows u, trivial⟩

theorem alike_changeSymbol (id id' : SymbolId) (f : Symbol → Symbol) :
    Alike u (changeSymbol id f) (changeSymbol id' f) Any :=
  alike_modify (fun s => quiet_database s _) (fun s => quiet_database s _)

/-- Quoting a source gives its lines, and they stay what they are. -/
theorem start_quotedLines (s : Session) (file : String) : ∃ t, Quiet s t ∧
    (quotedLines file).start s = ((linesOf s file).mapError Fault.ofEncoding, t) := by
  rw [quotedLines, Attempt.start_bind_ok (Attempt.start_get s), linesOf]
  cases hq : s.quoted.lookup file with
  | some lines => exact ⟨s, .refl s, rfl⟩
  | none =>
    have hgiven : given.start s = (.ok s.environment, s) := rfl
    simp only [Attempt.start_bind_ok hgiven]
    rcases hf : SourceLines.quotable s.environment.files file with e | _ | lines
    · exact ⟨s, .refl s, rfl⟩
    · exact ⟨s, .refl s, rfl⟩
    · refine ⟨{ s with quoted := (file, lines) :: s.quoted }, ⟨?_, rfl, rfl⟩, rfl⟩
      -- the lines that are kept are those that would be read again
      have hlines : linesOf { s with quoted := (file, lines) :: s.quoted } = linesOf s := by
        funext f
        rw [linesOf, linesOf, List.lookup_cons]
        by_cases hfile : f = file
        · rw [hfile, hq, hf, beq_self_eq_true]
          rfl
        · rw [beq_eq_false_iff_ne.mpr hfile]
      rw [settingOf, settingOf, hlines]

theorem alike_quotedLines (file : String) : Alike u (quotedLines file) (quotedLines file) Equal := by
  intro s s' hs
  obtain ⟨t, ht, hm⟩ := start_quotedLines s file
  obtain ⟨t', ht', hm'⟩ := start_quotedLines s' file
  have hlines : linesOf s' file = linesOf s file :=
    (congrFun (congrArg Setting.lines hs.setting) file).symm
  rw [hlines] at hm'
  cases hl : linesOf s file with
  | ok lines =>
    rw [hl] at hm hm'
    exact Or.inl ⟨lines, t, lines, t', hm, hm', hs.quiet ht ht', ht.grows u, rfl⟩
  | error e =>
    rw [hl] at hm hm'
    exact Or.inr ⟨_, t, t', hm, hm', hs.quiet ht ht', ht.grows u⟩

theorem alike_sourceLines (d : CursorData) : Alike u (sourceLines d) (sourceLines d) Equal := by
  unfold sourceLines
  split
  · exact alike_pure fun _ _ => rfl
  · exact (alike_quotedLines _).then fun _ => alike_pure fun _ _ => rfl

theorem alike_publicPart (node : CursorRef) : Alike u (publicPart u node) (publicPart u node) Equal :=
  (alike_sourceLines _).then fun _ => (alike_ofExcept _).then fun _ => alike_pure fun _ _ => rfl

theorem alike_typedItem (kind : SymbolKind) (ty : TypeRef) :
    Alike u (typedItem u kind ty) (typedItem u kind ty) Any :=
  (alike_ofExcept _).then fun _ => alike_addSymbol _ _

theorem alike_parameter (node : CursorRef) : Alike u (parameter u node) (parameter u node) Any :=
  (alike_ofExcept _).then fun _ => alike_addSymbol _ _

/-! ## Requests -/

/-- The details of a request give it a name, for display and as its key. -/
structure Named (details : List Detail) (name : String) : Prop where
  display (kind : SymbolKind) : Request.display? { kind, details } = some (.text name)
  key (kind : SymbolKind) : Request.key? { kind, details := details ++ [.language "c"] } = some (.text name)

/-- A symbol has a name in a session. -/
def HasName (t : Session) (id : SymbolId) (name : String) : Prop :=
  ∃ x, t.database.get? id = some x ∧ x.uniqueName = some name

/-- Both results are symbols of a name, or neither is a symbol. -/
def BothNamed (name : String) (t : Session) (a : SymbolSlot) (t' : Session) (a' : SymbolSlot) : Prop :=
  a = none ∧ a' = none ∨
    ∃ id id', a = some id ∧ a' = some id' ∧ HasName t id name ∧ HasName t' id' name

variable {details details' : List Detail} {name : String}

/-- A session after a request was served. -/
def afterRequest (s : Session) (name : String) (r : Request) : Session :=
  { s with requests := s.requests ++ [r], database := (s.database.serve (.text name) r).1 }

/-- A request is served by the name that is its key. -/
theorem start_requestPlain_of_key (s : Session) {kind : SymbolKind}
    (hkey : Request.key? { kind, details := details ++ [.language "c"] } = some (.text name)) :
    (requestPlain kind details).start s =
      (.ok (s.database.serve (.text name) { kind, details := details ++ [.language "c"] }).2,
        afterRequest s name { kind, details := details ++ [.language "c"] }) := by
  rw [requestPlain, Attempt.start_bind_ok (Attempt.start_modify _ _), hkey]
  rfl

theorem start_requestPlain (s : Session) (kind : SymbolKind) (h : Named details name) :
    ∃ id, (requestPlain kind details).start s =
        (.ok id, afterRequest s name { kind, details := details ++ [.language "c"] }) ∧
      HasName (afterRequest s name { kind, details := details ++ [.language "c"] }) id name :=
  ⟨_, start_requestPlain_of_key s (h.key kind), s.database.get?_serve name _⟩

theorem quiet_afterRequest (s : Session) (name : String) (r : Request) : Quiet s (afterRequest s name r) :=
  ⟨rfl, rfl, rfl⟩

/-- The verdict on a symbol depends on the names left out alone. -/
theorem verdict_congr {x : Gir.Index} {leftOut leftOut' : List (Option String)}
    (h : ∀ name, name ∈ leftOut ↔ name ∈ leftOut') (kind : SymbolKind) (name : Option String) :
    Gir.verdict x leftOut kind name = Gir.verdict x leftOut' kind name := by
  rw [Gir.verdict, Gir.verdict]
  exact if_congr (h name) rfl rfl

/-- A session after a detail was reported. -/
def reported (s : Session) (message : String) : Session := { s with log := s.log ++ [.debug message] }

theorem quiet_reported (s : Session) (message : String) : Quiet s (reported s message) :=
  ⟨rfl, rfl, rfl⟩

/-- A session after a name was left out for good, which is reported. -/
def leaveOut (s : Session) (message : String) (name : Option String) : Session :=
  { reported s message with leftOut := Gir.insertNew s.leftOut name }

theorem Same.leaveOut (h : Same s s') (message : String) (name : Option String) :
    Same (leaveOut s message name) (leaveOut s' message name) :=
  ⟨h.setting, h.found,
    fun name' => Gir.mem_insertNew.trans ((or_congr_left (h.leftOut name')).trans Gir.mem_insertNew.symm)⟩

theorem grows_leaveOut {name : Option String} (u : SourceUnit) (message : String)
    (h : ∃ kind, Gir.IsDroppedForGood s.index kind name) : Grows u s (leaveOut s message name) where
  setting := rfl
  found := List.Subset.refl _
  found_new _ := Or.inl
  leftOut _ hmem := Gir.mem_insertNew.mpr (Or.inl hmem)
  leftOut_new name' hmem := by
    rcases Gir.mem_insertNew.mp hmem with hold | rfl
    · exact Or.inl hold
    · exact Or.inr h

theorem alike_requestPlain (kind : SymbolKind) (h : Named details name) (h' : Named details' name) :
    Alike u (do return some (← requestPlain kind details)) (do return some (← requestPlain kind details'))
      (BothNamed name) := by
  intro s s' hs
  obtain ⟨id, hm, hid⟩ := start_requestPlain s kind h
  obtain ⟨id', hm', hid'⟩ := start_requestPlain s' kind h'
  have hquiet := quiet_afterRequest s name { kind, details := details ++ [.language "c"] }
  rw [Attempt.start_bind_ok hm, Attempt.start_bind_ok hm']
  exact Or.inl ⟨_, _, _, _, rfl, rfl, hs.quiet hquiet (quiet_afterRequest s' name _), hquiet.grows u,
    Or.inr ⟨id, id', rfl, rfl, hid, hid'⟩⟩

/-- What becomes of a request for introspection, by the verdict on its symbol. -/
def judged (s : Session) (kind : SymbolKind) (details : List Detail) (name : Option String) : Doc SymbolSlot :=
  match Gir.verdict s.index s.leftOut kind name with
  | .keep => do return some (← requestPlain kind details)
  | .drop => return none
  | .dropAlways message => do
    debug message
    return none
  | .dropOnce message => do
    debug message
    modify fun s => { s with leftOut := Gir.insertNew s.leftOut name }
    return none

/-- A request for introspection is served when no symbols are left out. -/
theorem start_requestFiltered_all (hs : s.leavesOut = false) (kind : SymbolKind) (details : List Detail) :
    (requestFiltered kind details).start s = Attempt.start (do return some (← requestPlain kind details)) s := by
  rw [requestFiltered, Attempt.start_bind_ok (Attempt.start_get s), hs]
  rfl

/-- What becomes of a request for introspection when symbols are left out. -/
theorem start_requestFiltered (hs : s.leavesOut = true) (kind : SymbolKind) (h : Named details name) :
    (requestFiltered kind details).start s = match Gir.verdict s.index s.leftOut kind (some name) with
      | .keep => Attempt.start (do return some (← requestPlain kind details)) s
      | .drop => (.ok none, s)
      | .dropAlways message => (.ok none, reported s message)
      | .dropOnce message => (.ok none, leaveOut s message (some name)) := by
  rw [requestFiltered, Attempt.start_bind_ok (Attempt.start_get s), hs, h.display kind]
  show Attempt.start (judged s kind details (some name)) s = _
  unfold judged
  cases Gir.verdict s.index s.leftOut kind (some name) <;> rfl

/-- A request for introspection that gives a symbol was served. -/
theorem start_requestPlain_of_filtered {kind : SymbolKind} {id : SymbolId}
    (h : (requestFiltered kind details).start s = (.ok (some id), t)) :
    (requestPlain kind details).start s = (.ok id, t) := by
  have hmade (h : Attempt.start (do return some (← requestPlain kind details)) s = (.ok (some id), t)) :
      (requestPlain kind details).start s = (.ok id, t) := by
    obtain ⟨id', t', hplain, h⟩ := Attempt.start_bind_eq_ok h
    cases h
    exact hplain
  have hjudged (name : Option String) (h : (judged s kind details name).start s = (.ok (some id), t)) :
      (requestPlain kind details).start s = (.ok id, t) := by
    unfold judged at h
    cases hv : Gir.verdict s.index s.leftOut kind name with
    | keep =>
      rw [hv] at h
      exact hmade h
    | drop | dropAlways _ | dropOnce _ =>
      rw [hv] at h
      cases h
  rw [requestFiltered, Attempt.start_bind_ok (Attempt.start_get s)] at h
  cases hl : s.leavesOut with
  | false =>
    rw [hl] at h
    exact hmade h
  | true =>
    rw [hl] at h
    cases hshown : Request.display? { kind, details } with
    | none =>
      rw [hshown] at h
      cases h
    | some shown =>
      rw [hshown] at h
      cases shown with
      | null => exact hjudged none h
      | text name => exact hjudged (some name) h
      | list items => cases h
      | dict entries => cases h
      | _ => exact hmade h

theorem alike_requestFiltered (kind : SymbolKind) (h : Named details name) (h' : Named details' name) :
    Alike u (requestFiltered kind details) (requestFiltered kind details') (BothNamed name) := by
  intro s s' hs
  have hleaves : s.leavesOut = s'.leavesOut := congrArg Setting.leavesOut hs.setting
  have hnone (t t' : Session) : BothNamed name t none t' none := Or.inl ⟨rfl, rfl⟩
  cases hl : s.leavesOut with
  | false =>
    have hl' : s'.leavesOut = false := hleaves.symm.trans hl
    rw [start_requestFiltered_all hl, start_requestFiltered_all hl']
    exact alike_requestPlain kind h h' hs
  | true =>
    have hverdict : Gir.verdict s'.index s'.leftOut kind (some name)
        = Gir.verdict s.index s.leftOut kind (some name) := by
      rw [← hs.index, verdict_congr hs.leftOut]
    rw [start_requestFiltered hl kind h, start_requestFiltered (hleaves.symm.trans hl) kind h', hverdict]
    cases hv : Gir.verdict s.index s.leftOut kind (some name) with
    | keep => exact alike_requestPlain kind h h' hs
    | drop => exact Or.inl ⟨_, s, _, s', rfl, rfl, hs, Grows.refl u s, hnone _ _⟩
    | dropAlways message =>
      have hquiet := quiet_reported s message
      exact Or.inl ⟨_, _, _, _, rfl, rfl, hs.quiet hquiet (quiet_reported s' message), hquiet.grows u,
        hnone _ _⟩
    | dropOnce message =>
      exact Or.inl ⟨_, _, _, _, rfl, rfl, hs.leaveOut message (some name),
        grows_leaveOut u message ⟨kind, Gir.isDroppedForGood_of_verdict hv⟩, hnone _ _⟩

theorem alike_request (owner : Owner) (kind : SymbolKind) (h : Named details name)
    (h' : Named details' name) :
    Alike u (request owner kind details) (request owner kind details') (BothNamed name) := by
  cases owner with
  | c => exact alike_requestPlain kind h h'
  | introspection => exact alike_requestFiltered kind h h'

/-! ## Declarations -/

/-- Both results are symbols of one name, that of a node of the unit, or neither is a symbol. -/
def BothDeclared (u : SourceUnit) (t : Session) (a : SymbolSlot) (t' : Session) (a' : SymbolSlot) : Prop :=
  ∃ name ∈ u.spellings, BothNamed name t a t' a'

theorem bothDeclared_none (u : SourceUnit) (t t' : Session) : BothDeclared u t none t' none :=
  ⟨"", List.mem_cons_self, Or.inl ⟨rfl, rfl⟩⟩

/-- A request for a symbol that is named for a node. -/
theorem alike_requestFor (owner : Owner) (kind : SymbolKind) (node : CursorRef)
    (h : Named details (u.cursor node).spelling) (h' : Named details' (u.cursor node).spelling) :
    Alike u (request owner kind details) (request owner kind details') (BothDeclared u) :=
  (alike_request owner kind h h').mono fun _ _ _ _ hboth => ⟨_, u.spelling_mem node, hboth⟩

variable (owner : Owner) (node : CursorRef)

theorem alike_function : Alike u (function owner u node) (function owner u node) (BothDeclared u) := by
  refine (alike_typedItem _ _).bind fun _ _ _ => ?_
  refine (Alike.mapM fun a _ => (alike_needSame _ _).then fun _ => alike_parameter _).bind fun _ _ _ => ?_
  exact alike_requestFor owner _ node ⟨fun _ => rfl, fun _ => rfl⟩ ⟨fun _ => rfl, fun _ => rfl⟩

theorem alike_exportedVariable :
    Alike u (exportedVariable owner u node) (exportedVariable owner u node) (BothDeclared u) := by
  refine (alike_quotedLines _).then fun _ => (alike_sourceLines _).then fun _ => ?_
  refine (alike_typedItem _ _).bind fun _ _ _ => ?_
  exact alike_requestFor owner _ node ⟨fun _ => rfl, fun _ => rfl⟩ ⟨fun _ => rfl, fun _ => rfl⟩

/-- A field is named for its structure and itself, whether that name counts as one or not. -/
theorem named_field (pointer : Bool) (ty : SymbolId) (file member name : String) : Named
    [.isFunctionPointer pointer, .memberName member, .fieldType ty, .filename (some file),
      .displayName (some name), .uniqueName name] name := by
  refine ⟨fun _ => rfl, fun _ => ?_⟩
  show SymbolKey.ofValue? ((Option.filter Value.truthy (some (Value.text name)) <|>
    some (Value.text name)).getD .null) = _
  rw [Option.filter]
  split <;> rfl

theorem alike_field (struct file : String) :
    Alike u (field owner u struct file node) (field owner u struct file node) Any := by
  refine (alike_ofExcept _).then fun _ => (alike_ofExcept _).then fun _ => ?_
  refine (alike_addSymbol _ _).bind fun _ _ _ => ?_
  exact (alike_request owner _ (named_field _ _ _ _ _) (named_field _ _ _ _ _)).any

/-- The symbol of a structure under the name of a node, be it its own or that of its type definition. -/
theorem alike_struct (named : CursorRef) :
    Alike u (struct owner u node (u.cursor named).spelling) (struct owner u node (u.cursor named).spelling)
      (BothDeclared u) := by
  refine (alike_publicPart node).then fun part => ?_
  refine (Alike.mapM fun c _ => alike_field owner c _ _).bind fun _ _ _ => ?_
  exact alike_requestFor owner _ named ⟨fun _ => rfl, fun _ => rfl⟩ ⟨fun _ => rfl, fun _ => rfl⟩

theorem alike_enumConstant : Alike u (enumConstant owner u node) (enumConstant owner u node) Any := by
  refine (alike_ofExcept _).then fun _ => ?_
  refine ((alike_request owner _ ⟨fun _ => rfl, fun _ => rfl⟩ ⟨fun _ => rfl, fun _ => rfl⟩).mono
    fun _ a _ a' (hboth : BothNamed (u.cursor node).spelling _ a _ a') => ?_ : Alike u _ _ fun _ a _ a' =>
      a.isSome = a'.isSome).bind fun slot slot' hslot => ?_
  · rcases hboth with ⟨rfl, rfl⟩ | ⟨_, _, rfl, rfl, -⟩ <;> rfl
  · refine (alike_need _ hslot).bind fun _ _ _ => (alike_changeSymbol _ _ _).bind fun _ _ _ => ?_
    exact alike_pure fun _ _ => trivial

theorem alike_enumeration (named : CursorRef) :
    Alike u (enumeration owner u node (u.cursor named).spelling)
      (enumeration owner u node (u.cursor named).spelling) (BothDeclared u) := by
  refine (Alike.mapM fun c _ => alike_enumConstant owner c).bind fun _ _ _ => ?_
  refine (alike_sourceLines _).then fun _ => ?_
  exact alike_requestFor owner _ named ⟨fun _ => rfl, fun _ => rfl⟩ ⟨fun _ => rfl, fun _ => rfl⟩

theorem alike_callback : Alike u (callback owner u node) (callback owner u node) (BothDeclared u) := by
  have hrequest (ps ps' : List SymbolId) (result result' : SymbolId) :
      Alike u (request owner .callback ([.parameters (ps.map some), .returnValue [some result]]
          ++ placed (u.cursor node).spelling (u.cursor node)))
        (request owner .callback ([.parameters (ps'.map some), .returnValue [some result']]
          ++ placed (u.cursor node).spelling (u.cursor node))) (BothDeclared u) :=
    alike_requestFor owner _ node ⟨fun _ => rfl, fun _ => rfl⟩ ⟨fun _ => rfl, fun _ => rfl⟩
  unfold callback
  cases u.children node with
  | nil => exact (alike_addSymbol _ _).bind fun _ _ _ => hrequest [] [] _ _
  | cons _ rest =>
    refine (alike_typedItem _ _).bind fun _ _ _ => ?_
    exact (Alike.mapM fun c _ => alike_parameter c).bind fun _ _ _ => hrequest _ _ _ _

theorem alike_otherName (sources : List String) :
    Alike u (otherName owner sources u node) (otherName owner sources u node) Any := by
  refine (alike_ofExcept _).then fun _ => (alike_typedItem _ _).bind fun _ _ _ => ?_
  refine (alike_ofExcept _).then fun _ => ?_
  refine (alike_requestFor owner _ node ⟨fun _ => rfl, fun _ => rfl⟩ ⟨fun _ => rfl, fun _ => rfl⟩).any.bind
    fun _ _ _ => alike_pure fun _ _ => trivial

theorem alike_typedefinition (sources : List String) :
    Alike u (typedefinition owner sources u node) (typedefinition owner sources u node)
      (BothDeclared u) := by
  have hother : Alike u (do otherName owner sources u node; return none)
      (do otherName owner sources u node; return none) (BothDeclared u) :=
    (alike_otherName owner node sources).bind fun _ _ _ => alike_pure (bothDeclared_none u)
  refine (alike_ofExcept _).then fun _ => (alike_ofExcept _).then fun isCallback => ?_
  split
  · exact alike_callback owner node
  refine (alike_ofExcept _).then fun declaration => ?_
  split
  · refine (alike_ofExcept _).then fun kind => ?_
    split
    · exact alike_struct owner declaration node
    split
    · exact alike_enumeration owner declaration node
    · exact hother
  · exact hother

/-- Whether a name was found before. -/
theorem start_isFound (s : Session) (name : String) :
    (isFound name).start s = (.ok (decide (name ∈ names s)), s) := by
  have hfound : (s.scanner.found.lookup name).isSome = decide (name ∈ names s) := by
    rw [Bool.eq_iff_iff, Value.isSome_lookup, decide_eq_true_iff, names]
  rw [isFound, Attempt.start_bind_ok (Attempt.start_get s), ← hfound]
  rfl

theorem alike_isFound (name : String) : Alike u (isFound name) (isFound name) Equal := by
  intro s s' hs
  exact Or.inl ⟨_, s, _, s', start_isFound s name, start_isFound s' name, hs, Grows.refl u s,
    decide_eq_decide.mpr (hs.found name)⟩

theorem alike_declaredByKind (sources : List String) :
    Alike u (declaredByKind owner sources u node) (declaredByKind owner sources u node)
      (BothDeclared u) := by
  refine (alike_ofExcept _).then fun kind => ?_
  split
  · exact alike_exportedVariable owner node
  split
  · exact alike_typedefinition owner node sources
  split
  · exact alike_struct owner node node
  split
  · exact alike_enumeration owner node node
  · exact alike_pure (bothDeclared_none u)

/-- **What becomes of a declaration depends only on what a walk can see.** -/
theorem alike_declared (sources : List String) :
    Alike u (declared owner sources u node) (declared owner sources u node) (BothDeclared u) := by
  refine (alike_ofExcept _).then fun ofFunction => ?_
  cases ofFunction with
  | none => exact alike_declaredByKind owner node sources
  | some f =>
    refine (alike_isFound _).then fun found => ?_
    cases found with
    | true => exact alike_declaredByKind owner node sources
    | false => exact alike_function owner f

end GirDoc.C
