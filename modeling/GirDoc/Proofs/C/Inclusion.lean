import GirDoc.C.Include
import GirDoc.Proofs.C.Schedule

/-!
# Which symbol an included piece of source is cut for

A page includes the lines of a symbol from a source. The symbol known by the name is taken if it is in that
source. Otherwise the source is gone through again, and then the symbol known by the name is taken whatever
source it is in.

* `Consults` says which symbol is taken, and `excerpt` what is cut for it: `include_cuts_for_consulted`.
* So lines are cut for a symbol of another source if there is one of that name and the source itself has none.
  Going through the source again makes no difference to a name that it does not request (`SameUnless`).
-/

namespace GirDoc.C

open Session

variable {s t : Session} {path name : String} {ranges : Value}

/-! ## What is cut for a symbol -/

/-- Goes through a source again. -/
def rescan (path : String) : Doc Unit := do
  prepareLibrary
  let flags := (← get).flags
  scan .c { files := [path], options := flags, treesOnly := true, patterns := ["*.c", "*.h"] }

/-- The lines of a source in a range that counts from the first line of a symbol. -/
def cutRange (files : FileTree) (x : Symbol) (path : String) (range : Value) : Except Fault String := do
  let bounds ← rangeBounds x (← rangeEnds range)
  let text ← (files.readText path).mapError Fault.ofRead
  cutLines text bounds

/-- The lines of a source in ranges, with a line of dots between them. -/
def cutRanges (files : FileTree) (x : Symbol) (path : String) (ranges : List Value) : Except Fault String := do
  return "\n...\n".intercalate (← ranges.mapM (cutRange files x path))

/-- What is included of a source for a symbol: all lines of the symbol if no ranges are given, and nothing if
there are no such lines. -/
def excerpt (files : FileTree) (x : Symbol) (path : String) (ranges : Value) :
    Except Fault (Option String) := do
  let ranges ← if ranges.truthy then (Options.itemsOf ranges).mapError Fault.ofOptions else pure [wholeRange]
  let text ← cutRanges files x path ranges
  return if text.isEmpty then none else some text

theorem start_mapM_ofExcept {α β : Type} (f : α → Except Fault β) (items : List α) (s : Session) :
    (items.mapM fun a => (Attempt.ofExcept (f a) : Doc β)).start s = (items.mapM f, s) := by
  induction items with
  | nil => rfl
  | cons a rest ih =>
    rw [List.mapM_cons, List.mapM_cons, Attempt.start_bind, Attempt.start_ofExcept]
    cases f a with
    | error e => rfl
    | ok b =>
      show Attempt.start (_ >>= _) s = _
      rw [Attempt.start_bind, ih]
      cases rest.mapM f <;> rfl

theorem start_snippet (x : Symbol) (path : String) (ranges : List Value) (s : Session) :
    (snippet x path ranges).start s = (cutRanges s.environment.files x path ranges, s) := by
  have hgiven : given.start s = (.ok s.environment, s) := rfl
  rw [snippet, Attempt.start_bind_ok hgiven]
  show Attempt.start ((ranges.mapM fun range =>
    Attempt.ofExcept (cutRange s.environment.files x path range)) >>= _) s = _
  rw [Attempt.start_bind, start_mapM_ofExcept, cutRanges]
  cases ranges.mapM (cutRange s.environment.files x path) <;> rfl

/-- A session in which it was reported that a symbol could not be found. -/
def warned (path name : String) (s : Session) : Session :=
  { s with log := s.log ++ [.warn "bad-c-inclusion"
    ("Trying to include symbol " ++ name ++ " but could not be found in " ++ path)] }

/-! ## Which symbol is taken -/

/-- No symbol of that source is known by the name. -/
def IsElsewhere (s : Session) (path name : String) : Prop :=
  ∀ x, s.database.symbol? name = some x → x.filename ≠ some path

/-- The symbol that is taken, and the session then: the one known by the name if it is in that source, else the
one known after the source was gone through again. -/
inductive Consults (s : Session) (path name : String) : Option Symbol → Session → Prop where
  | known {x : Symbol} (hx : s.database.symbol? name = some x) (hfile : x.filename = some path) :
    Consults s path name (some x) s
  | rescanned {t : Session} (hother : IsElsewhere s path name) (ht : (rescan path).start s = (.ok (), t)) :
    Consults s path name (t.database.symbol? name) t

theorem start_symbolOf?_known {x : Symbol} (hx : s.database.symbol? name = some x)
    (hfile : x.filename = some path) : (symbolOf? path name).start s = (.ok (some x), s) := by
  have hknown : (s.database.symbol? name).filter (fun x => decide (x.filename = some path)) = some x := by
    rw [hx, Option.filter_some, if_pos (decide_eq_true hfile)]
  rw [symbolOf?, Attempt.start_bind_ok (Attempt.start_get s)]
  dsimp only
  rw [hknown]
  rfl

theorem start_symbolOf?_rescanned (hother : IsElsewhere s path name) : (symbolOf? path name).start s =
    Attempt.start (do rescan path; return (← get).database.symbol? name) s := by
  have hnone : (s.database.symbol? name).filter (fun x => decide (x.filename = some path)) = none := by
    rw [Option.filter_eq_none_iff]
    exact fun x hx => by simpa using hother x hx
  rw [symbolOf?, Attempt.start_bind_ok (Attempt.start_get s)]
  dsimp only
  rw [hnone, rescan]
  simp only [bind_assoc]

theorem start_symbolOf? {slot : Option Symbol} (h : Consults s path name slot t) :
    (symbolOf? path name).start s = (.ok slot, t) := by
  cases h with
  | known hx hfile => exact start_symbolOf?_known hx hfile
  | rescanned hother ht =>
    rw [start_symbolOf?_rescanned hother, Attempt.start_bind_ok ht]
    rfl

theorem consults_or_rescan_fails (s : Session) (path name : String) :
    (∃ slot t, Consults s path name slot t) ∨
      ∃ e t, IsElsewhere s path name ∧ (rescan path).start s = (.error e, t) := by
  by_cases hother : IsElsewhere s path name
  · rcases ht : (rescan path).start s with ⟨e | _, t⟩
    · exact Or.inr ⟨e, t, hother, rfl⟩
    · exact Or.inl ⟨_, t, .rescanned hother ht⟩
  · simp only [IsElsewhere, not_forall, not_not] at hother
    obtain ⟨x, hx, hfile⟩ := hother
    exact Or.inl ⟨_, s, .known hx hfile⟩

/-! ## What is included -/

theorem declines_eq_false (hpath : path.endsWith ".c" = true) (hname : name ≠ "") :
    (!path.endsWith ".c" || name.isEmpty) = false := by
  have hempty : name.isEmpty = false := by simpa using hname
  rw [hpath, hempty]
  rfl

/-- What is included once a symbol was looked for. -/
theorem start_include?_ok (hpath : path.endsWith ".c" = true) (hname : name ≠ "") {slot : Option Symbol}
    (h : (symbolOf? path name).start s = (.ok slot, t)) : (include? path ranges name).start s =
      slot.elim (.ok none, warned path name t) fun x => (excerpt t.environment.files x path ranges, t) := by
  have hcut (x : Symbol) (ranges : List Value) : Attempt.start (do
      let text ← snippet x path ranges
      return if text.isEmpty then none else some text : Doc (Option String)) t =
        ((do
          let text ← cutRanges t.environment.files x path ranges
          return if text.isEmpty then none else some text), t) := by
    rw [Attempt.start_bind, start_snippet]
    cases cutRanges t.environment.files x path ranges <;> rfl
  rw [include?, declines_eq_false hpath hname]
  show Attempt.start (symbolOf? path name >>= _) s = _
  rw [Attempt.start_bind_ok h]
  cases slot with
  | none => rfl
  | some x =>
    show _ = (excerpt t.environment.files x path ranges, t)
    rw [excerpt]
    cases ranges.truthy with
    | false => exact hcut x [wholeRange]
    | true =>
      show Attempt.start (Attempt.ofExcept ((Options.itemsOf ranges).mapError Fault.ofOptions) >>= _) t = _
      cases (Options.itemsOf ranges).mapError Fault.ofOptions with
      | error e => rfl
      | ok ranges => exact hcut x ranges

theorem start_include?_error (hpath : path.endsWith ".c" = true) (hname : name ≠ "") {e : Fault}
    (hother : IsElsewhere s path name) (h : (rescan path).start s = (.error e, t)) :
    (include? path ranges name).start s = (.error e, t) := by
  have hsymbol : (symbolOf? path name).start s = (.error e, t) := by
    rw [start_symbolOf?_rescanned hother, Attempt.start_bind_error h]
  rw [include?, declines_eq_false hpath hname]
  exact Attempt.start_bind_error hsymbol

/-! ## What going through a source again leaves -/

/-- Nothing changed which symbol is known by a name, unless one of that name was requested. -/
def SameUnless (name : String) (s t : Session) : Prop :=
  ∃ new, t.requests = s.requests ++ new ∧
    (t.database.find? name = s.database.find? name ∨ ∃ r ∈ new, r.key? = some (.text name))

theorem sameUnless_refl (name : String) (s : Session) : SameUnless name s s :=
  ⟨[], (List.append_nil _).symm, Or.inl rfl⟩

theorem allowsTrees_sameUnless (name : String) : AllowsTrees (SameUnless name) where
  refl := sameUnless_refl name
  trans := by
    rintro s t t' ⟨new, hnew, h⟩ ⟨new', hnew', h'⟩
    refine ⟨new ++ new', by rw [hnew', hnew, List.append_assoc], ?_⟩
    rcases h with h | ⟨r, hr, hkey⟩
    · rcases h' with h' | ⟨r, hr, hkey⟩
      · exact Or.inl (h'.trans h)
      · exact Or.inr ⟨r, List.mem_append_right _ hr, hkey⟩
    · exact Or.inr ⟨r, List.mem_append_left _ hr, hkey⟩
  log s _ := sameUnless_refl name s
  quoted s _ := sameUnless_refl name s
  leftOut s _ := sameUnless_refl name s
  add s _ := sameUnless_refl name s
  change s _ _ _ := sameUnless_refl name s
  request s name' r _ hkey := by
    refine ⟨[r], rfl, ?_⟩
    by_cases hname : name = name'
    · exact Or.inr ⟨r, List.mem_singleton_self r, hname ▸ hkey⟩
    · exact Or.inl (s.database.find?_serve_of_ne r hname)
  scanner s _ := sameUnless_refl name s
  library s _ := sameUnless_refl name s

theorem leads_rescan {R : Session → Session → Prop} (h : AllowsTrees R) (path : String) :
    Leads R (rescan path) := by
  have hprepare : Leads R prepareLibrary := by
    intro s
    rw [prepareLibrary, Attempt.start_bind_ok (Attempt.start_get s)]
    cases s.library.loaded with
    | true => exact h.refl s
    | false => exact h.library s _
  refine h.bind hprepare fun _ => h.bind h.get fun s => ?_
  rw [scan_eq_opening]
  refine h.bind (leads_opening _ h) fun arguments => ?_
  exact h.bind (h.foldlM (fun guarded file _ => leads_scanTree h .c _ arguments guarded file) _) fun _ => h.pure _

theorem Consults.symbol?_eq {slot : Option Symbol} (h : Consults s path name slot t) :
    t.database.symbol? name = slot := by
  cases h with
  | known hx _ => exact hx
  | rescanned _ _ => rfl

theorem Consults.of_source {x : Symbol} (h : Consults s path name (some x) t) :
    x.filename = some path ∨ IsElsewhere s path name ∧ SameUnless name s t := by
  generalize hslot : some x = slot at h
  cases h with
  | known hx hfile =>
    cases hslot
    exact Or.inl hfile
  | rescanned hother ht =>
    have hsame := leads_rescan (allowsTrees_sameUnless name) path s
    rw [ht] at hsame
    exact Or.inr ⟨hother, hsame⟩

/-- **The lines included are cut for the symbol that is known by the name**, at once or after the source was gone
through again. That symbol is one of the source, unless no symbol of the source was known before. Then it is
whatever was requested under that name when the source was gone through, or else the symbol known before. -/
theorem include_cuts_for_consulted (hpath : path.endsWith ".c" = true) (hname : name ≠ "") (ranges : Value)
    (s : Session) :
    (∀ r t, (include? path ranges name).start s = (r, t) ↔
      (∃ e, IsElsewhere s path name ∧ (rescan path).start s = (.error e, t) ∧ r = .error e) ∨
      (∃ t₁, Consults s path name none t₁ ∧ r = .ok none ∧ t = warned path name t₁) ∨
      ∃ x, Consults s path name (some x) t ∧ r = excerpt t.environment.files x path ranges) ∧
    ∀ x t, Consults s path name (some x) t → t.database.symbol? name = some x ∧
      (x.filename = some path ∨ IsElsewhere s path name ∧ SameUnless name s t) := by
  refine ⟨fun r t => ⟨fun h => ?_, fun h => ?_⟩, fun x t h => ⟨h.symbol?_eq, h.of_source⟩⟩
  · rcases consults_or_rescan_fails s path name with ⟨slot, t₁, hconsults⟩ | ⟨e, t₁, hother, hrescan⟩
    · rw [start_include?_ok hpath hname (start_symbolOf? hconsults)] at h
      cases slot with
      | none =>
        cases h
        exact Or.inr (Or.inl ⟨t₁, hconsults, rfl, rfl⟩)
      | some x =>
        cases h
        exact Or.inr (Or.inr ⟨x, hconsults, rfl⟩)
    · rw [start_include?_error hpath hname hother hrescan] at h
      cases h
      exact Or.inl ⟨e, hother, hrescan, rfl⟩
  · rcases h with ⟨e, hother, hrescan, rfl⟩ | ⟨t₁, hconsults, rfl, rfl⟩ | ⟨x, hconsults, rfl⟩
    · exact start_include?_error hpath hname hother hrescan
    · exact start_include?_ok hpath hname (start_symbolOf? hconsults)
    · exact start_include?_ok hpath hname (start_symbolOf? hconsults)

/-! ## A symbol of another source -/

/-- A session that knows a function in the first two lines of a file. The source `/a.c` has no declarations. -/
def knowing (file : String) : Session where
  environment := {
    files := { files := [("/a.c", "int a;\nint b;\nint c;\n".toUTF8.toList)] }
    units := [{ main := "/a.c" }] }
  database := (Database.empty.insert (.text "foo")
    { kind := .function, uniqueName := some "foo", filename := some file,
      extentStart := some 1, extentEnd := some 2 }).1
  library := { loaded := true }

/-- The lines of a function of the source. -/
theorem include_cuts_for_known : "/a.c".endsWith ".c" = true ∧ "foo" ≠ "" ∧
    (include? "/a.c" .null "foo").start (knowing "/a.c") = (.ok (some "int a;\nint b;"), knowing "/a.c") := by
  have hpath : "/a.c".endsWith ".c" = true := by decide +kernel
  refine ⟨hpath, by decide, ?_⟩
  refine ((include_cuts_for_consulted hpath (by decide) .null _).1 _ _).mpr (Or.inr (Or.inr ?_))
  exact ⟨_, .known rfl rfl, by decide +kernel⟩

/-- **Lines of a source are included for a symbol that is in another one**, and none of that name is in the source:
they are those in which the other source has the symbol. -/
theorem include_cuts_for_stranger :
    ((knowing "/b.c").database.symbol? "foo").map Symbol.filename = some (some "/b.c") ∧
    ((include? "/a.c" .null "foo").start (knowing "/b.c")).1.toOption = some (some "int a;\nint b;") ∧
    ((((include? "/a.c" .null "foo").start (knowing "/b.c")).2.database.symbol? "foo").map
      Symbol.filename = some (some "/b.c")) := by
  decide +kernel

end GirDoc.C
