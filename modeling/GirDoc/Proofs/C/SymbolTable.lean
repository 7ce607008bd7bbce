import Mathlib.Data.List.Nodup
import GirDoc.Proofs.C.FirstDeclaration

/-!
# What a scan asked for and what it found

A scan requests a symbol for each declaration and notes it under its name, so that the next node of that name is
passed over. The symbol of another name for a type is requested too, but not noted.

* `NeverDeclines` says that every request is answered with a symbol, which is so exactly if nothing is left out
  (`neverDeclines_iff`).
* `Accounts` says how the requests for the nodes met divide into those whose symbols were found and those for other
  names. It holds of all that a scan asked for (`Meeting.accounts`, `Follows.accounts`).
* So the table of what was found is complete (`IsComplete`) but for other names: `symbols_complete_iff`.
-/

namespace GirDoc.C

open Ast Session

/-! ## Requests that are never declined -/

/-- Every request for a symbol with a name is answered with a symbol. -/
def NeverDeclines (owner : Owner) (s : Session) : Prop :=
  ∀ kind details name, Named details name → ∃ id, ((request owner kind details).start s).1 = .ok (some id)

section Declining

variable {owner : Owner} {kind : SymbolKind} {details : List Detail} {name : String} {s t : Session}

/-- What macros declare for themselves is left out if anything is. -/
theorem verdict_hiddenVariable_ne_keep (x : Gir.Index) (leftOut : List (Option String)) :
    Gir.verdict x leftOut .exportedVariable (some "__inst") ≠ .keep := by
  unfold Gir.verdict Gir.freshVerdict
  split
  · simp
  split
  · simp
  split
  · simp
  · simp [Gir.hiddenVariables]

/-- A request is served if nothing is left out. -/
theorem start_request_of_all (h : owner = .c ∨ s.leavesOut = false) (kind : SymbolKind) (hnamed : Named details name) :
    ∃ id, (request owner kind details).start s =
        (.ok (some id), afterRequest s name { kind, details := details ++ [.language "c"] }) ∧
      HasName (afterRequest s name { kind, details := details ++ [.language "c"] }) id name := by
  obtain ⟨id, hstart, hname⟩ := start_requestPlain s kind hnamed
  refine ⟨id, ?_, hname⟩
  have hmade : Attempt.start (do return some (← requestPlain kind details)) s =
      (.ok (some id), afterRequest s name { kind, details := details ++ [.language "c"] }) := by
    rw [Attempt.start_bind_ok hstart]
    rfl
  cases owner with
  | c => exact hmade
  | introspection => exact (start_requestFiltered_all (h.resolve_left (by simp)) kind details).trans hmade

/-- Nothing is ever declined exactly if nothing is left out. -/
theorem neverDeclines_iff : NeverDeclines owner s ↔ owner = .c ∨ s.leavesOut = false := by
  constructor
  · intro h
    cases owner with
    | c => exact Or.inl rfl
    | introspection =>
      by_contra hnot
      have hs : s.leavesOut = true := by simpa using hnot
      have hnamed : Named [.displayName (some "__inst")] "__inst" := ⟨fun _ => rfl, fun _ => rfl⟩
      obtain ⟨id, hid⟩ := h .exportedVariable _ _ hnamed
      have hverdict := verdict_hiddenVariable_ne_keep s.index s.leftOut
      rw [request, start_requestFiltered hs .exportedVariable hnamed] at hid
      cases hv : Gir.verdict s.index s.leftOut .exportedVariable (some "__inst") with
      | keep => exact hverdict hv
      | drop | dropAlways _ | dropOnce _ =>
        rw [hv] at hid
        cases hid
  · intro h kind details name hnamed
    obtain ⟨id, hstart, -⟩ := start_request_of_all h kind hnamed
    exact ⟨id, congrArg Prod.fst hstart⟩

theorem NeverDeclines.of_leavesOut (h : NeverDeclines owner s) (ht : t.leavesOut = s.leavesOut) :
    NeverDeclines owner t := by
  rw [neverDeclines_iff] at h ⊢
  rwa [ht]

theorem NeverDeclines.of_ledger (h : NeverDeclines owner s) (ht : ledger t = ledger s) : NeverDeclines owner t :=
  h.of_leavesOut (congrArg Prod.snd ht)

/-- A request for the symbol of a declaration is written down. -/
theorem ledger_request (ht : ledger t = ledger s) (hkind : kind ∈ declarationKinds) (hnamed : Named details name) :
    ledger (afterRequest t name { kind, details := details ++ [.language "c"] }) =
      (requested s ++ [(kind, some (.text name))], s.leavesOut) := by
  obtain ⟨hrequested, hleaves⟩ := Prod.mk.inj ht
  rw [ledger_afterRequest hkind, hnamed.key kind, hrequested, hleaves]

end Declining

theorem Declares.kind_mem {u : SourceUnit} {node : CursorRef} {kind : SymbolKind} {name : String}
    (h : Declares u node kind name) : kind ∈ declarationKinds ∧ kind ≠ .otherName := by
  cases h <;> decide

/-! ## What is asked for the nodes met -/

/-- The other name that is asked for when a node is gone into. -/
def Meeting.otherName? (plan : Plan) (m : Meeting) : Option String :=
  match target? plan.files m.unit m.node with
  | .ok (some target) =>
    if (m.unit.cursor target).spelling ∈ names m.session then none
    else match isOtherName m.unit target with
      | .ok true => some (m.unit.cursor target).spelling
      | _ => none
  | _ => none

/-- What was asked for are symbols of names that were found, and symbols of other names. -/
structure Accounts (asked : List (SymbolKind × Option SymbolKey)) (found other : List String) : Prop where
  found : (asked.filter (·.1 ≠ .otherName)).map Prod.snd = found.map fun name => some (.text name)
  other : asked.filter (·.1 = .otherName) = other.map fun name => (.otherName, some (.text name))

theorem accounts_nil : Accounts [] [] [] := ⟨rfl, rfl⟩

theorem Accounts.append {asked asked' : List (SymbolKind × Option SymbolKey)} {found found' other other' : List String}
    (h : Accounts asked found other) (h' : Accounts asked' found' other') :
    Accounts (asked ++ asked') (found ++ found') (other ++ other') where
  found := by rw [List.filter_append, List.map_append, List.map_append, h.found, h'.found]
  other := by rw [List.filter_append, List.map_append, h.other, h'.other]

section Meetings

variable {owner : Owner} {plan : Plan} {m : Meeting} {target : CursorRef}

theorem Meeting.made?_eq_none {r : Except Fault SymbolSlot} {t : Session}
    (htarget : target? plan.files m.unit m.node = .ok (some target))
    (hdeclared : (declared owner plan.sources m.unit target).start m.session = (r, t))
    (hr : ∀ id, r ≠ .ok (some id)) : m.made? owner plan = none := by
  cases hmade : m.made? owner plan with
  | none => rfl
  | some made =>
    obtain ⟨name, id⟩ := made
    obtain ⟨kind, target', t', htarget', -, -, -, hdeclared', -⟩ := made?_eq_some_iff.mp hmade
    cases htarget.symm.trans htarget'
    exact absurd (congrArg Prod.fst (hdeclared.symm.trans hdeclared')) (hr id)

theorem Meeting.otherName?_eq_none (htarget : target? plan.files m.unit m.node = .ok (some target))
    (hother : isOtherName m.unit target ≠ .ok true) : m.otherName? plan = none := by
  rw [otherName?, htarget]
  dsimp only
  split
  · rfl
  split
  · next h => exact absurd h hother
  · rfl

theorem Meeting.otherName?_eq_some (htarget : target? plan.files m.unit m.node = .ok (some target))
    (hnew : (m.unit.cursor target).spelling ∉ names m.session) (hother : isOtherName m.unit target = .ok true) :
    m.otherName? plan = some (m.unit.cursor target).spelling := by
  rw [otherName?, htarget]
  dsimp only
  rw [if_neg hnew, hother]

/-- **Going into a node** asks for what it makes, or for another name. -/
theorem Meeting.accounts (m : Meeting) (hs : NeverDeclines owner m.session) :
    ∃ asked, ledger (m.after owner plan) = (requested m.session ++ asked, m.session.leavesOut) ∧
      Accounts asked ((m.made? owner plan).toList.map Prod.fst) (m.otherName? plan).toList := by
  have hnothing {t : Session} (ht : ledger t = ledger m.session) :
      ledger t = (requested m.session ++ [], m.session.leavesOut) := by
    rw [ht, List.append_nil]
    rfl
  rw [after]
  rcases htarget : target? plan.files m.unit m.node with e | _ | target
  · rw [made?, otherName?, enter, htarget]
    exact ⟨[], hnothing rfl, accounts_nil⟩
  · rw [made?, otherName?, enter, htarget]
    exact ⟨[], hnothing rfl, accounts_nil⟩
  by_cases hfound : (m.unit.cursor target).spelling ∈ names m.session
  · rw [made?, otherName?, start_enter_found htarget hfound, htarget]
    simp only [hfound, if_true]
    exact ⟨[], hnothing rfl, accounts_nil⟩
  rw [start_enter_new htarget hfound]
  have hupshot : Upshot owner m.unit target m.session
      ((declared owner plan.sources m.unit target).start m.session) := upshot_declared hfound
  generalize hr : (declared owner plan.sources m.unit target).start m.session = r at hupshot
  cases hupshot with
  | failure hother ht =>
    rw [otherName?_eq_none htarget hother, made?_eq_none htarget hr (by simp), Attempt.start_bind_error hr]
    exact ⟨[], hnothing ht, accounts_nil⟩
  | nothing hother =>
    rw [otherName?_eq_none htarget hother, made?_eq_none htarget hr (by simp), Attempt.start_bind_ok hr]
    exact ⟨[], hnothing rfl, accounts_nil⟩
  | @answer kind name details t hother hdeclares hnew hnamed ht =>
    obtain ⟨hkind, hne⟩ := hdeclares.kind_mem
    obtain ⟨id, hrequest, hname⟩ := start_request_of_all (neverDeclines_iff.mp (hs.of_ledger ht)) kind hnamed
    have hdeclared := hr.trans hrequest
    rw [otherName?_eq_none htarget hother, made?_of_declared htarget hfound hdeclared hname,
      Attempt.start_bind_ok hdeclared, Attempt.start_bind_ok (start_noteFound hname)]
    refine ⟨[(kind, some (.text name))], ledger_request ht hkind hnamed, ?_, ?_⟩
    · simp [hne]
    · simp [hne]
  | @otherName details t hother hnamed ht =>
    obtain ⟨id, hrequest, -⟩ := start_request_of_all (neverDeclines_iff.mp (hs.of_ledger ht)) .otherName hnamed
    have hdeclared := hr.trans (Attempt.start_bind_ok hrequest)
    rw [otherName?_eq_some htarget hfound hother, made?_eq_none htarget hdeclared (by simp),
      Attempt.start_bind_ok hdeclared]
    exact ⟨[(.otherName, some (.text (m.unit.cursor target).spelling))], ledger_request ht (by decide) hnamed, rfl, rfl⟩

/-- **What was asked for on the way from node to node** are symbols that were found, and other names. -/
theorem Follows.accounts {ms : List Meeting} {s t : Session} (h : Follows owner plan ledger s ms t)
    (hs : NeverDeclines owner s) : ∃ asked, requested t = requested s ++ asked ∧
      Accounts asked ((ms.filterMap (Meeting.made? owner plan)).map Prod.fst) (ms.filterMap (Meeting.otherName? plan)) := by
  induction ms generalizing s with
  | nil => exact ⟨[], (congrArg Prod.fst h).trans (List.append_nil _).symm, accounts_nil⟩
  | cons m ms ih =>
    obtain ⟨hsession, hrest⟩ := h
    obtain ⟨asked, hafter, haccounts⟩ := m.accounts (hs.of_ledger hsession)
    obtain ⟨hrequested, hleaves⟩ := Prod.mk.inj hafter
    obtain ⟨later, hlater, haccounts'⟩ := ih hrest ((hs.of_ledger hsession).of_leavesOut hleaves)
    have hcons {β : Type} (f : Meeting → Option β) : (m :: ms).filterMap f = (f m).toList ++ ms.filterMap f := by
      rw [List.filterMap_cons]
      cases f m <;> rfl
    refine ⟨asked ++ later, ?_, ?_⟩
    · have hsame : requested m.session = requested s := congrArg Prod.fst hsession
      rw [hlater, hrequested, hsame, List.append_assoc]
    · rw [hcons, hcons, List.map_append]
      exact haccounts.append haccounts'

end Meetings

/-! ## The table of what was found -/

/-- All that was asked for was found by the end, and nothing was asked for twice. -/
structure IsComplete (asked : List (SymbolKind × Option SymbolKey)) (t : Session) : Prop where
  found : ∀ a ∈ asked, ∃ name ∈ names t, a.2 = some (.text name)
  once : asked.Nodup

section Complete

variable {asked : List (SymbolKind × Option SymbolKey)} {found other : List String} {t : Session}

theorem Accounts.isComplete_found (h : Accounts asked found other) (hfound : ∀ name ∈ found, name ∈ names t)
    (hnodup : found.Nodup) : IsComplete (asked.filter (·.1 ≠ .otherName)) t where
  found a ha := by
    have hmem := List.mem_map_of_mem (f := Prod.snd) ha
    rw [h.found] at hmem
    obtain ⟨name, hname, heq⟩ := List.mem_map.mp hmem
    exact ⟨name, hfound name hname, heq.symm⟩
  once := by
    refine List.Nodup.of_map Prod.snd ?_
    rw [h.found]
    exact hnodup.map fun _ _ heq => SymbolKey.text.inj (Option.some.inj heq)

/-- What was asked for is complete exactly if the other names among it are. -/
theorem Accounts.isComplete_iff (h : Accounts asked found other) (hfound : ∀ name ∈ found, name ∈ names t)
    (hnodup : found.Nodup) : IsComplete asked t ↔ other.Nodup ∧ ∀ name ∈ other, name ∈ names t := by
  have hkept := h.isComplete_found hfound hnodup
  have hmem (name : String) (hname : name ∈ other) :
      (SymbolKind.otherName, some (SymbolKey.text name)) ∈ asked.filter (·.1 = .otherName) := by
    rw [h.other]
    exact List.mem_map_of_mem hname
  constructor
  · intro hcomplete
    refine ⟨?_, ?_⟩
    · have honce := hcomplete.once.filter (·.1 = .otherName)
      rw [h.other] at honce
      exact honce.of_map
    · intro name hname
      obtain ⟨name', hname', heq⟩ := hcomplete.found _ (List.mem_of_mem_filter (hmem name hname))
      cases heq
      exact hname'
  · rintro ⟨honce, hall⟩
    refine ⟨?_, ?_⟩
    · intro a ha
      by_cases hother : a.1 = .otherName
      · have ha' : a ∈ asked.filter (·.1 = .otherName) := List.mem_filter.mpr ⟨ha, decide_eq_true hother⟩
        rw [h.other] at ha'
        obtain ⟨name, hname, rfl⟩ := List.mem_map.mp ha'
        exact ⟨name, hall name hname, rfl⟩
      · exact hkept.found a (List.mem_filter.mpr ⟨ha, decide_eq_true hother⟩)
    · -- no request is both for another name and for something else
      have hperm := List.filter_append_perm (fun a => decide (a.1 = SymbolKind.otherName)) asked
      simp only [← decide_not] at hperm
      refine hperm.nodup_iff.mp (List.nodup_append.mpr ⟨?_, hkept.once, ?_⟩)
      · rw [h.other]
        exact honce.map fun _ _ heq => SymbolKey.text.inj (Option.some.inj (congrArg Prod.snd heq))
      · rintro a ha b hb rfl
        exact of_decide_eq_true (List.mem_filter.mp hb).2 (of_decide_eq_true (List.mem_filter.mp ha).2)

end Complete

/-- The other names that a scan asks for, in the order of the nodes met. -/
def otherNames (owner : Owner) (plan : Plan) (s : Session) : List String :=
  (meetings owner plan s).filterMap (Meeting.otherName? plan)

/-- **The table of what was found is complete but for other names.** If no symbol is declined, each declaration that a
scan asks for is found by its name, and none is asked for twice as the same kind, other names apart. Those are asked
for whenever one is met, and so all is complete exactly if each of them is met once and its name is that of something
else that was found. -/
theorem symbols_complete_iff (owner : Owner) (plan : Plan) (s : Session) (hs : NeverDeclines owner s) :
    ∃ asked, requested ((scan owner plan).start s).2 = requested s ++ asked ∧
      IsComplete (asked.filter (·.1 ≠ .otherName)) ((scan owner plan).start s).2 ∧
      asked.filter (·.1 = .otherName) = (otherNames owner plan s).map (fun name => (.otherName, some (.text name))) ∧
      (IsComplete asked ((scan owner plan).start s).2 ↔
        (otherNames owner plan s).Nodup ∧
          ∀ name ∈ otherNames owner plan s, name ∈ names ((scan owner plan).start s).2) := by
  have hledger := leads_opening plan allowsTrees_ledger s
  rcases hopening : (opening plan).start s with ⟨e | arguments, t⟩
  all_goals rw [hopening] at hledger
  · have hnone : meetings owner plan s = [] := by rw [meetings, hopening]; rfl
    rw [otherNames, hnone, start_scan, Attempt.start_bind_error hopening]
    refine ⟨[], (congrArg Prod.fst hledger).trans (List.append_nil _).symm, ?_, rfl, ?_⟩
    · exact accounts_nil.isComplete_found (by simp) List.nodup_nil
    · exact accounts_nil.isComplete_iff (by simp) List.nodup_nil
  · have hfollows : Follows owner plan ledger t (meetings owner plan s) ((scan owner plan).start s).2 :=
      follows_scan (fun _ _ => rfl) allowsTexts_ledger hopening
    obtain ⟨asked, hasked, haccounts⟩ := hfollows.accounts (hs.of_ledger hledger)
    have hfirst : FirstWins owner plan (meetings owner plan s) ((scan owner plan).start s).2 :=
      firstWins_of_follows (scanner_opening hopening) (follows_scan (fun _ _ => rfl) allowsTexts_found hopening)
    have hfound : ∀ name ∈ ((meetings owner plan s).filterMap (Meeting.made? owner plan)).map Prod.fst,
        name ∈ names ((scan owner plan).start s).2 := by
      rw [names, hfirst.found_eq]
      exact fun _ h => h
    have hbefore : requested t = requested s := congrArg Prod.fst hledger
    rw [hbefore] at hasked
    exact ⟨asked, hasked, haccounts.isComplete_found hfound hfirst.names_nodup, haccounts.other,
      haccounts.isComplete_iff hfound hfirst.names_nodup⟩

/-- A header with another name for a type, and a structure of the same name. -/
def aliasHeader (annotated : List CursorRef) : SourceUnit where
  main := "/a.h"
  cursors := #[
    { kind := 20, spelling := "Foo", file := some "/a.h", line := 1, underlying := .type 0 },
    { kind := 2, spelling := "Foo", file := some "/a.h", line := 1 }]
  types := #[{ kind := 17, spelling := "int" }]
  annotated := [("/a.h", annotated)]

/-- A session that is given such a header. -/
def aliasSession (annotated : List CursorRef) : Session where
  environment := { files := { files := [("/a.h", [])] }, units := [aliasHeader annotated] }
  library := { loaded := true }

theorem aliasSession_scans :
    (otherNames .c { files := ["/a.h"] } (aliasSession [.node 0, .node 1]) = ["Foo"] ∧
      names ((scan .c { files := ["/a.h"] }).start (aliasSession [.node 0, .node 1])).2 = ["Foo"]) ∧
    requested ((scan .c { files := ["/a.h"] }).start (aliasSession [.node 0, .node 0])).2 =
      [(.otherName, some (.text "Foo")), (.otherName, some (.text "Foo"))] ∧
    names ((scan .c { files := ["/a.h"] }).start (aliasSession [.node 0, .node 0])).2 = [] := by
  decide +kernel

/-- Another name that is met once and is also that of a structure: all is complete. -/
theorem symbols_complete_struct :
    NeverDeclines .c (aliasSession [.node 0, .node 1]) ∧
    IsComplete (requested ((scan .c { files := ["/a.h"] }).start (aliasSession [.node 0, .node 1])).2)
      ((scan .c { files := ["/a.h"] }).start (aliasSession [.node 0, .node 1])).2 := by
  have hs : NeverDeclines .c (aliasSession [.node 0, .node 1]) := neverDeclines_iff.mpr (Or.inl rfl)
  obtain ⟨asked, hasked, -, -, hiff⟩ := symbols_complete_iff .c { files := ["/a.h"] } _ hs
  have hnone : requested (aliasSession [.node 0, .node 1]) = [] := rfl
  obtain ⟨⟨hother, hnames⟩, -⟩ := aliasSession_scans
  rw [hasked, hnone, List.nil_append]
  refine ⟨hs, hiff.mpr ?_⟩
  rw [hother, hnames]
  exact ⟨List.nodup_singleton _, fun _ h => h⟩

/-- Another name that is met twice is asked for twice, and is not found. -/
theorem not_isComplete_otherName :
    NeverDeclines .c (aliasSession [.node 0, .node 0]) ∧
    names ((scan .c { files := ["/a.h"] }).start (aliasSession [.node 0, .node 0])).2 = [] ∧
    ∀ asked, requested ((scan .c { files := ["/a.h"] }).start (aliasSession [.node 0, .node 0])).2 =
        requested (aliasSession [.node 0, .node 0]) ++ asked →
      ¬ asked.Nodup ∧ ¬ IsComplete asked ((scan .c { files := ["/a.h"] }).start (aliasSession [.node 0, .node 0])).2 := by
  obtain ⟨-, htwice, hnames⟩ := aliasSession_scans
  refine ⟨neverDeclines_iff.mpr (Or.inl rfl), hnames, fun asked hasked => ?_⟩
  have heq : asked = [(.otherName, some (.text "Foo")), (.otherName, some (.text "Foo"))] := hasked.symm.trans htwice
  have honce : ¬ asked.Nodup := by
    rw [heq]
    decide
  exact ⟨honce, fun hcomplete => honce hcomplete.once⟩

end GirDoc.C
