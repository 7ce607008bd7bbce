import GirDoc.Proofs.C.Requests

/-!
# The first declaration of a name wins

A scan notes the symbol of a declaration under its name. What was noted stays, and under each name stands the
symbol that was made for the first declaration of that name for which one was made.

* `meetings` are the nodes that a scan goes into, each with the session that it finds. What a node got a symbol
  for is told by `Meeting.made?`.
* `Follows` says that sessions follow one another from node to node, and that a view of them stays the same in between.
  It does so if no text and no other step of a scan changes that view (`follows_scan`).
* So what was noted is what the nodes made, one after the other: `first_declaration_wins`.
-/

namespace GirDoc.C

open Ast Session

/-! ## The nodes that a scan goes into -/

/-- A node that is gone into, and the session that it finds. -/
structure Meeting where
  unit : SourceUnit
  node : CursorRef
  session : Session

section Meetings

variable {α : Type} (owner : Owner) (plan : Plan)

/-- The session once a node was gone into. -/
def Meeting.after (m : Meeting) : Session := ((enter owner plan m.unit m.node).start m.session).2

/-- The symbol that was made for what a node declares, under its name. Nothing is made for a node whose name was
found before. -/
def Meeting.made? (m : Meeting) : Option (String × SymbolId) :=
  match target? plan.files m.unit m.node with
  | .ok (some target) =>
    if (m.unit.cursor target).spelling ∈ names m.session then none
    else match (declared owner plan.sources m.unit target).start m.session with
      | (.ok (some id), t) => ((t.database.get? id).bind Symbol.uniqueName).map (·, id)
      | _ => none
  | _ => none

/-- The nodes met after a step, which must succeed. -/
def onward (r : Except Fault α × Session) (met : α → Session → List Meeting) : List Meeting :=
  match r with
  | (.ok a, t) => met a t
  | (.error _, _) => []

/-- The nodes met on steps that are taken one after the other. -/
def metAll (run : α → Doc Unit) (met : α → Session → List Meeting) : List α → Session → List Meeting
  | [], _ => []
  | a :: rest, s => met a s ++ onward ((run a).start s) fun _ t => metAll run met rest t

/-- The nodes met on a walk: the node itself, then those below it. -/
def nodesMet (u : SourceUnit) : (depth : Nat) → CursorRef → Session → List Meeting
  | 0, _, _ => []
  | depth + 1, node, s => ⟨u, node, s⟩ :: onward ((enter owner plan u node).start s) fun below t =>
      metAll (walk owner plan u depth) (nodesMet u depth) below t

/-- The nodes met on a step of a schedule. -/
def stepMet : Step → Session → List Meeting
  | .walk u file, s => onward ((openFile u file).start s) fun depth t =>
      metAll (walk owner plan u depth) (nodesMet owner plan u depth) ((u.annotated.lookup file).getD []) t
  | _, _ => []

/-- The nodes met on a scan. -/
def meetings (s : Session) : List Meeting :=
  onward ((opening plan).start s) fun arguments t =>
    metAll (perform owner plan arguments) (stepMet owner plan) (schedule s.environment plan) t

/-! ## What going into a node notes -/

theorem allowsTexts_found : AllowsTexts fun s t => t.scanner.found = s.scanner.found where
  refl _ := rfl
  trans h h' := h'.trans h
  log _ _ := rfl
  quoted _ _ := rfl
  leftOut _ _ := rfl
  add _ _ := rfl
  change _ _ _ _ := rfl
  request _ _ _ _ _ := rfl
  requestMacro _ _ _ _ _ := rfl
  comments _ _ := rfl

variable {owner plan} {m : Meeting} {target : CursorRef}

theorem start_enter_found (htarget : target? plan.files m.unit m.node = .ok (some target))
    (hfound : (m.unit.cursor target).spelling ∈ names m.session) :
    (enter owner plan m.unit m.node).start m.session = (.ok [], m.session) := by
  rw [enter, htarget, Attempt.start_bind_ok (Attempt.start_ofExcept (.ok (some target)) _)]
  simp only [Attempt.start_bind_ok (start_isFound m.session _), decide_eq_true hfound, if_true]
  rfl

theorem start_enter_new (htarget : target? plan.files m.unit m.node = .ok (some target))
    (hnew : (m.unit.cursor target).spelling ∉ names m.session) :
    (enter owner plan m.unit m.node).start m.session = Attempt.start (do
      noteFound (← declared owner plan.sources m.unit target)
      return m.unit.children target) m.session := by
  rw [enter, htarget, Attempt.start_bind_ok (Attempt.start_ofExcept (.ok (some target)) _)]
  simp only [Attempt.start_bind_ok (start_isFound m.session _), decide_eq_false hnew]
  rfl

/-- A request for a symbol of what a node declares was made when the node was gone into, and answered. -/
def Meeting.Asks (owner : Owner) (plan : Plan) (m : Meeting) (kind : SymbolKind) (name : String)
    (slot : SymbolSlot) : Prop :=
  ∃ target t, target? plan.files m.unit m.node = .ok (some target) ∧
    (m.unit.cursor target).spelling ∉ names m.session ∧ name ∉ names m.session ∧
    Declares m.unit target kind name ∧
    (declared owner plan.sources m.unit target).start m.session = (.ok slot, t) ∧
    Answered owner kind name slot t

theorem Meeting.made?_of_declared {id : SymbolId} {t : Session} {name : String}
    (htarget : target? plan.files m.unit m.node = .ok (some target))
    (hnew : (m.unit.cursor target).spelling ∉ names m.session)
    (hdeclared : (declared owner plan.sources m.unit target).start m.session = (.ok (some id), t))
    (hname : HasName t id name) : m.made? owner plan = some (name, id) := by
  obtain ⟨x, hx, hx'⟩ := hname
  rw [made?, htarget]
  simp only [hnew, if_false, hdeclared, hx, Option.bind_some, hx', Option.map_some]

/-- What was made for a node was made on a request for what the node declares. -/
theorem Meeting.made?_eq_some_iff {name : String} {id : SymbolId} :
    m.made? owner plan = some (name, id) ↔ ∃ kind, m.Asks owner plan kind name (some id) := by
  constructor
  · intro h
    rw [made?] at h
    rcases htarget : target? plan.files m.unit m.node with e | _ | target
    · rw [htarget] at h
      cases h
    · rw [htarget] at h
      cases h
    · rw [htarget] at h
      by_cases hfound : (m.unit.cursor target).spelling ∈ names m.session
      · simp only [hfound, if_true] at h
        cases h
      simp only [hfound, if_false] at h
      rcases hdeclared : (declared owner plan.sources m.unit target).start m.session with ⟨e | _ | id', t⟩
      · rw [hdeclared] at h
        cases h
      · rw [hdeclared] at h
        cases h
      · rw [hdeclared] at h
        obtain ⟨kind, name', hdeclares, hnew⟩ := declares_of_declared hdeclared hfound
        have hanswered := hdeclares.answered hnew hdeclared
        obtain ⟨x, hx, hx'⟩ := hanswered.hasName
        simp only [hx, Option.bind_some, hx', Option.map_some] at h
        cases h
        exact ⟨kind, target, t, htarget, hfound, hnew, hdeclares, hdeclared, hanswered⟩
  · rintro ⟨kind, target, t, htarget, hfound, -, -, hdeclared, hanswered⟩
    exact made?_of_declared htarget hfound hdeclared hanswered.hasName

theorem Meeting.not_mem_names {name : String} {id : SymbolId} (h : m.made? owner plan = some (name, id)) :
    name ∉ names m.session := by
  obtain ⟨kind, target, t, -, -, hnew, -⟩ := made?_eq_some_iff.mp h
  exact hnew

/-- **Going into a node notes what was made for it, behind all that was found before.** -/
theorem Meeting.found_after (m : Meeting) :
    (m.after owner plan).scanner.found = m.session.scanner.found ++ (m.made? owner plan).toList := by
  have hnothing {t : Session} (ht : t.scanner.found = m.session.scanner.found) :
      t.scanner.found = m.session.scanner.found ++ (none : Option (String × SymbolId)).toList := by
    rw [ht]
    exact (List.append_nil _).symm
  rw [after]
  rcases htarget : target? plan.files m.unit m.node with e | _ | target
  · rw [made?, enter, htarget]
    exact hnothing rfl
  · rw [made?, enter, htarget]
    exact hnothing rfl
  by_cases hfound : (m.unit.cursor target).spelling ∈ names m.session
  · rw [made?, start_enter_found htarget hfound, htarget]
    simp only [hfound, if_true]
    exact hnothing rfl
  have hkept := leads_declared allowsTexts_found.toAllows owner m.unit target plan.sources m.session
  rw [start_enter_new htarget hfound]
  rcases hdeclared : (declared owner plan.sources m.unit target).start m.session with ⟨e | _ | id, t⟩
  all_goals rw [hdeclared] at hkept
  · rw [made?, Attempt.start_bind_error hdeclared, htarget]
    simp only [hfound, if_false, hdeclared]
    exact hnothing hkept
  · rw [made?, Attempt.start_bind_ok hdeclared, htarget]
    simp only [hfound, if_false, hdeclared]
    exact hnothing hkept
  · obtain ⟨kind, name, hdeclares, hnew⟩ := declares_of_declared hdeclared hfound
    have hname := (hdeclares.answered hnew hdeclared).hasName
    rw [made?_of_declared htarget hfound hdeclared hname, Attempt.start_bind_ok hdeclared,
      Attempt.start_bind_ok (start_noteFound hname)]
    show Value.put t.scanner.found name id = _
    rw [hkept]
    exact Value.put_of_not_mem id hnew

/-- A function is declared by its own node, or by that of its body. -/
theorem eq_or_body_of_functionNode? {u : SourceUnit} {node f : CursorRef}
    (h : functionNode? u node = .ok (some f)) : f = node ∨ u.cursorKind node = .ok compoundStmt := by
  unfold functionNode? at h
  cases hfile : (u.cursor node).file with
  | none =>
    rw [hfile] at h
    cases h
  | some file =>
    rw [hfile] at h
    cases hkind : u.cursorKind node with
    | error e =>
      rw [hkind] at h
      cases h
    | ok kind =>
      rw [hkind] at h
      replace h : (if file.endsWith ".h" then _ else _) = Except.ok (some f) := h
      by_cases hheader : file.endsWith ".h" = true
      · rw [if_pos hheader] at h
        by_cases hfunction : kind = functionDecl
        · rw [if_pos hfunction] at h
          cases h
          exact Or.inl rfl
        · rw [if_neg hfunction] at h
          cases h
      · rw [if_neg hheader] at h
        by_cases hbody : kind = compoundStmt
        · exact Or.inr (congrArg Except.ok hbody)
        · rw [if_pos hbody] at h
          cases h

/-- A node that declares a name that was found before is passed over: nothing is asked for, and nothing else
changes either. -/
theorem Meeting.after_eq_session (htarget : target? plan.files m.unit m.node = .ok (some target))
    (hfound : (m.unit.cursor target).spelling ∈ names m.session ∨
      ∃ f, functionNode? m.unit target = .ok (some f) ∧ (m.unit.cursor f).spelling ∈ names m.session) :
    m.after owner plan = m.session := by
  rw [after]
  by_cases hself : (m.unit.cursor target).spelling ∈ names m.session
  · rw [start_enter_found htarget hself]
  obtain ⟨f, hf, hfound⟩ := hfound.resolve_left hself
  -- a function in a header is its own node, so what is left is the body of one
  have hbody : m.unit.cursorKind target = .ok compoundStmt :=
    (eq_or_body_of_functionNode? hf).resolve_left fun heq => hself (heq ▸ hfound)
  have hdeclared : (declared owner plan.sources m.unit target).start m.session = (.ok none, m.session) := by
    rw [declared, hf, Attempt.start_bind_ok (Attempt.start_ofExcept (.ok (some f)) _)]
    simp only [Attempt.start_bind_ok (start_isFound m.session _), decide_eq_true hfound, if_true]
    rw [declaredByKind, hbody]
    rfl
  rw [start_enter_new htarget hself, Attempt.start_bind_ok hdeclared]
  rfl

/-! ## From node to node -/

variable {γ : Type} (view : Session → γ)

/-- From one session to another, nodes are met one after the other. What `view` sees of a session changes on going
into them, and stays the same in between. -/
def Follows (owner : Owner) (plan : Plan) (view : Session → γ) : Session → List Meeting → Session → Prop
  | s, [], t => view t = view s
  | s, m :: ms, t => view m.session = view s ∧ Follows owner plan view (m.after owner plan) ms t

variable {view} {s s' r t : Session} {ms ms' : List Meeting}

theorem Follows.of_view (hs : view s' = view s) (h : Follows owner plan view s ms t) :
    Follows owner plan view s' ms t := by
  cases ms with
  | nil => exact h.trans hs.symm
  | cons m ms => exact ⟨h.1.trans hs.symm, h.2⟩

theorem Follows.append (h : Follows owner plan view s ms r) (h' : Follows owner plan view r ms' t) :
    Follows owner plan view s (ms ++ ms') t := by
  induction ms generalizing s with
  | nil => exact h'.of_view (Eq.symm h)
  | cons m ms ih => exact ⟨h.1, ih h.2⟩

theorem Follows.before {before after : List Meeting} {m : Meeting}
    (h : Follows owner plan view s (before ++ m :: after) t) : Follows owner plan view s before m.session := by
  induction before generalizing s with
  | nil => exact h.1
  | cons m' before ih => exact ⟨h.1, ih h.2⟩

theorem follows_bind {m : Doc α} {k : α → Doc Unit} {met : α → Session → List Meeting}
    (hk : ∀ a t, Follows owner plan view t (met a t) ((k a).start t).2) (s : Session) :
    Follows owner plan view (m.start s).2 (onward (m.start s) met) ((m >>= k).start s).2 := by
  rcases hm : m.start s with ⟨e | a, t⟩
  · rw [Attempt.start_bind_error hm]
    exact rfl
  · rw [Attempt.start_bind_ok hm]
    exact hk a t

theorem follows_metAll {run : α → Doc Unit} {met : α → Session → List Meeting}
    (h : ∀ a s, Follows owner plan view s (met a s) ((run a).start s).2) (items : List α) (s : Session) :
    Follows owner plan view s (metAll run met items s) ((items.forM run).start s).2 := by
  induction items generalizing s with
  | nil => exact rfl
  | cons a rest ih => exact (h a s).append (follows_bind (fun _ t => ih t) s)

/-- **A walk goes from node to node.** -/
theorem follows_walk (u : SourceUnit) (depth : Nat) (node : CursorRef) (s : Session) :
    Follows owner plan view s (nodesMet owner plan u depth node s) ((walk owner plan u depth node).start s).2 := by
  induction depth generalizing node s with
  | zero => exact rfl
  | succ depth ih => exact ⟨rfl, follows_bind (fun below t => follows_metAll ih below t) s⟩

section Scans

variable {P : SymbolKind → Prop}
  (hmark : ∀ (s : Session) (parsed : List String), view { s with scanner := { s.scanner with parsed } } = view s)

include hmark

theorem follows_perform (h : Allows (fun s t => view t = view s) P) (arguments : List String) (step : Step)
    (s : Session) :
    Follows owner plan view s (stepMet owner plan step s) ((perform owner plan arguments step).start s).2 := by
  cases step with
  | parse u =>
    have hparse : Leads (fun s t => view t = view s) (perform owner plan arguments (.parse u)) :=
      h.bind (leads_note h _) fun _ => h.bind (leads_parseUnit h _ _ _) fun _ => h.pure _
    exact hparse s
  | report u => exact leads_reportDiagnostics h u s
  | ask u file =>
    show view ((perform owner plan arguments (.ask u file)).start s).2 = _
    rw [perform]
    cases u.knows file <;> rfl
  | mark file => exact hmark s _
  | walk u file =>
    refine Follows.of_view ?_ (follows_bind (fun depth t => follows_metAll (follows_walk u depth) _ t) s)
    exact (leads_openFile u file h s).symm

omit hmark in
theorem leads_texts {R : Session → Session → Prop} (h : AllowsTexts R P) (owner : Owner) (plan : Plan)
    (guarded : List String) :
    Leads R (if !plan.treesOnly then plan.files.forM (scanText owner guarded) else pure () : Doc Unit) := by
  split
  · exact h.forM fun file _ => leads_scanText h owner file guarded
  · exact h.pure _

/-- **A scan goes from node to node.** Texts leave as it is what `view` sees. -/
theorem follows_scan (h : AllowsTexts (fun s t => view t = view s) P) {arguments : List String}
    (hopening : (opening plan).start s = (.ok arguments, t)) :
    Follows owner plan view t (meetings owner plan s) ((scan owner plan).start s).2 := by
  have hsteps := follows_metAll (@follows_perform owner plan _ _ _ hmark h.toAllows arguments)
    (schedule s.environment plan) t
  rw [meetings, hopening, start_scan, Attempt.start_bind_ok hopening]
  rcases hrun : ((schedule s.environment plan).forM (perform owner plan arguments)).start t with ⟨e | _, t'⟩
  · rw [hrun] at hsteps
    rw [Attempt.start_bind_error hrun]
    exact hsteps
  · rw [hrun] at hsteps
    rw [Attempt.start_bind_ok hrun]
    have htexts := leads_texts h owner plan
      ((parsedUnits (schedule s.environment plan)).flatMap (guardedOf plan)) t'
    have hnothing : Follows owner plan view t' [] _ := htexts
    have hboth := hsteps.append hnothing
    rwa [List.append_nil] at hboth

end Scans

/-- What was found is what was made for the nodes met, in their order. -/
theorem Follows.found_eq (h : Follows owner plan (·.scanner.found) s ms t) :
    t.scanner.found = s.scanner.found ++ ms.filterMap (Meeting.made? owner plan) := by
  induction ms generalizing s with
  | nil => exact h.trans (List.append_nil _).symm
  | cons m ms ih =>
    have hsession : m.session.scanner.found = s.scanner.found := h.1
    rw [ih h.2, m.found_after, hsession, List.append_assoc, List.filterMap_cons]
    cases m.made? owner plan <;> rfl

theorem Follows.nodup (h : Follows owner plan (·.scanner.found) s ms t) (hs : (names s).Nodup) : (names t).Nodup := by
  induction ms generalizing s with
  | nil =>
    have ht : names t = names s := congrArg (List.map Prod.fst) h
    rwa [ht]
  | cons m ms ih =>
    refine ih h.2 ?_
    have hsession : names m.session = names s := congrArg (List.map Prod.fst) h.1
    rw [names, m.found_after, List.map_append]
    rw [← hsession] at hs
    refine List.nodup_append.mpr ⟨hs, ?_, ?_⟩
    · cases m.made? owner plan <;> simp
    · rintro name hname _ hmem rfl
      obtain ⟨⟨name, id⟩, hmade, rfl⟩ := List.mem_map.mp hmem
      exact Meeting.not_mem_names (Option.mem_toList.mp hmade) hname

/-! ## Scans -/

theorem start_compilerHeaders (s : Session) : ∃ headers t, compilerHeaders.start s = (.ok headers, t) := by
  have hgiven : given.start s = (.ok s.environment, s) := rfl
  rw [compilerHeaders, Attempt.start_bind_ok hgiven]
  dsimp only
  split
  · exact ⟨_, _, rfl⟩
  · exact ⟨_, _, rfl⟩

/-- A scan that cannot be opened leaves what was found before. -/
theorem scanner_of_opening_error {e : Fault} (h : (opening plan).start s = (.error e, t)) :
    t.scanner = s.scanner := by
  rw [opening] at h
  cases hload : s.library.load s.environment.host with
  | error e' =>
    have hstart : loadLibrary.start s = (.error (.library (e'.message?.getD "")), s) := by
      rw [loadLibrary, Attempt.start_bind_ok (Attempt.start_get s), hload]
      rfl
    rw [Attempt.start_bind_error hstart] at h
    cases h
    rfl
  | ok library =>
    -- only loading the parser library can fail
    have hstart : loadLibrary.start s = (.ok (), { s with library }) := by
      rw [loadLibrary, Attempt.start_bind_ok (Attempt.start_get s), hload]
      rfl
    rw [Attempt.start_bind_ok hstart, info, note, Attempt.start_bind_ok (Attempt.start_modify _ _)] at h
    obtain ⟨headers, t₁, hheaders⟩ := start_compilerHeaders _
    rw [Attempt.start_bind_ok hheaders] at h
    cases h

end Meetings

/-- What was found by the end of a scan that met nodes and ended in the session `t`. -/
structure FirstWins (owner : Owner) (plan : Plan) (ms : List Meeting) (t : Session) : Prop where
  /-- What was found is what was made for the nodes met, in their order; when a node is met, it is what was made
  for those before it. -/
  found_eq : t.scanner.found = ms.filterMap (Meeting.made? owner plan)
  found_before : ∀ before m after, ms = before ++ m :: after →
    m.session.scanner.found = before.filterMap (Meeting.made? owner plan)
  /-- So it only grows, and no entry is replaced. -/
  found_grows : ∀ m ∈ ms, m.session.scanner.found <+: t.scanner.found
  /-- Nothing is made twice under one name. -/
  names_nodup : ((ms.filterMap (Meeting.made? owner plan)).map Prod.fst).Nodup
  /-- What is made for a node is what the database gave for the declaration of that name. -/
  made_iff : ∀ m ∈ ms, ∀ name id,
    m.made? owner plan = some (name, id) ↔ ∃ kind, m.Asks owner plan kind name (some id)
  /-- A declaration of a name that was not found yet is asked for, unless its node is passed over or going
  through it fails. -/
  asks_of_new : ∀ m ∈ ms, ∀ target kind name, target? plan.files m.unit m.node = .ok (some target) →
    Declares m.unit target kind name → name ∉ names m.session →
    (m.unit.cursor target).spelling ∉ names m.session →
    (∃ slot, m.Asks owner plan kind name slot) ∨
      ∃ e, ((declared owner plan.sources m.unit target).start m.session).1 = .error e
  /-- A node that declares a name that was found is passed over: it makes no request and changes nothing. -/
  passed_over : ∀ m ∈ ms, ∀ target, target? plan.files m.unit m.node = .ok (some target) →
    ((m.unit.cursor target).spelling ∈ names m.session ∨
      ∃ f, functionNode? m.unit target = .ok (some f) ∧ (m.unit.cursor f).spelling ∈ names m.session) →
    m.after owner plan = m.session

theorem firstWins_of_follows {owner : Owner} {plan : Plan} {ms : List Meeting} {s t : Session}
    (hs : s.scanner = {}) (h : Follows owner plan (·.scanner.found) s ms t) : FirstWins owner plan ms t := by
  have hempty : s.scanner.found = [] := congrArg Scanner.found hs
  have hfound := h.found_eq
  rw [hempty, List.nil_append] at hfound
  have hbefore {before after : List Meeting} {m : Meeting} (hms : ms = before ++ m :: after) :
      m.session.scanner.found = before.filterMap (Meeting.made? owner plan) := by
    subst hms
    have hm := h.before.found_eq
    rwa [hempty, List.nil_append] at hm
  exact {
    found_eq := hfound
    found_before := fun before m after hms => hbefore hms
    found_grows := fun m hm => by
      obtain ⟨before, after, hms⟩ := List.append_of_mem hm
      rw [hbefore hms, hfound, hms, List.filterMap_append]
      exact List.prefix_append _ _
    names_nodup := by
      have hnames := h.nodup (by rw [names, hempty]; exact List.nodup_nil)
      rwa [names, hfound] at hnames
    made_iff := fun m _ name id => Meeting.made?_eq_some_iff
    asks_of_new := fun m _ target kind name htarget hdeclares hnew hself => by
      rcases hdeclared : (declared owner plan.sources m.unit target).start m.session with ⟨e | slot, t⟩
      · exact Or.inr ⟨e, rfl⟩
      · exact Or.inl ⟨slot, target, t, htarget, hself, hnew, hdeclares, hdeclared,
          hdeclares.answered hnew hdeclared⟩
    passed_over := fun m _ target htarget hfound => Meeting.after_eq_session htarget hfound }

/-- **The first declaration of a name wins.** Once a scan was opened, all that is found are the symbols that were
made for the declarations met, each under its own name: that of the first declaration of the name for which the
database gave one. -/
theorem first_declaration_wins (owner : Owner) (plan : Plan) (s : Session) :
    (∃ e t, (opening plan).start s = (.error e, t) ∧ (scan owner plan).start s = (.error e, t) ∧
      t.scanner = s.scanner) ∨
    FirstWins owner plan (meetings owner plan s) ((scan owner plan).start s).2 := by
  rcases hopening : (opening plan).start s with ⟨e | arguments, t⟩
  · refine Or.inl ⟨e, t, rfl, ?_, scanner_of_opening_error hopening⟩
    rw [start_scan, Attempt.start_bind_error hopening]
  · exact Or.inr (firstWins_of_follows (scanner_opening hopening) (follows_scan (fun _ _ => rfl) allowsTexts_found hopening))

end GirDoc.C
