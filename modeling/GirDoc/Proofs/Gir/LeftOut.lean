import GirDoc.Proofs.C.Sight
import GirDoc.Proofs.Gir.Members

/-!
# Which requests are left out

When superfluous symbols are left out, the names that were left out are kept, so that nothing more is said of them.
A later request for one of these names is left out without another look at it, whatever kind of symbol it is for.

* One request adds its name to those kept if the verdict on it alone says so (`afterOne_eq`).
* For the macros and the type functions of classes that makes no difference, since they are left out whatever their
  kind is. But of private structures only the structures themselves are superfluous. So a request is left out for
  what was requested before it exactly if that was a private structure of its name (`isLeftOut_afterRequests_iff`).
-/

namespace GirDoc.Gir

open Session Xml

open C (judged)

/-! ## One request -/

/-- The name that the verdict on a request is about; a request may be for a symbol without a name. -/
def judgedName? (r : Request) : Option (Option String) :=
  match r.display? with
  | some .null => some none
  | some (.text name) => some (some name)
  | _ => none

/-- A request gives no symbol, and is not passed on to where symbols are made. -/
def IsLeftOut (s : Session) (r : Request) : Prop :=
  ((requestFiltered r.kind r.details).start s).1 = .ok none ∧
    ((requestFiltered r.kind r.details).start s).2.requests = s.requests

/-- The session after a request, whether it succeeds or not. -/
def afterOne (s : Session) (r : Request) : Session := ((requestFiltered r.kind r.details).start s).2

variable {s : Session} {r : Request} {name : Option String}

theorem judgedName?_eq_text_iff {text : String} :
    judgedName? r = some (some text) ↔ r.display? = some (.text text) := by
  unfold judgedName?
  split
  · next h => simp [h]
  · next name h => simp [h]
  · next hnull htext =>
    refine ⟨nofun, fun h => absurd h (htext text)⟩

theorem verdict_ne_keep_iff {x : Index} {leftOut : List (Option String)} {kind : SymbolKind} :
    verdict x leftOut kind name ≠ .keep ↔ name ∈ leftOut ∨ freshVerdict x kind name ≠ .keep := by
  unfold verdict
  by_cases hmem : name ∈ leftOut <;> simp [hmem]

theorem start_requestFiltered_judged (hs : s.leavesOut = true) (hname : judgedName? r = some name) :
    (requestFiltered r.kind r.details).start s = (judged s r.kind r.details name).start s := by
  rw [requestFiltered, Attempt.start_bind_ok (Attempt.start_get s), hs]
  unfold judgedName? at hname
  split at hname
  · next hdisplay =>
    cases hname
    rw [show Request.display? { kind := r.kind, details := r.details } = _ from hdisplay]
    rfl
  · next hdisplay =>
    cases hname
    rw [show Request.display? { kind := r.kind, details := r.details } = _ from hdisplay]
    rfl
  · cases hname

/-- A request that is passed on gives a symbol or fails, and leaves all but requests and symbols as it is. -/
theorem start_passedOn (s : Session) (kind : SymbolKind) (details : List Detail) :
    ((do return some (← requestPlain kind details) : Doc SymbolSlot).start s).1 ≠ .ok none ∧
      ∃ requests database, ((do return some (← requestPlain kind details) : Doc SymbolSlot).start s).2 =
        { s with requests, database } := by
  rw [requestPlain, bind_assoc, Attempt.start_bind_ok (Attempt.start_modify _ _)]
  cases Request.key? { kind, details := details ++ [.language "c"] } with
  | none => exact ⟨fun h => (by cases h), _, _, rfl⟩
  | some key => exact ⟨fun h => (by cases h), _, _, rfl⟩

/-- A request on which there is no verdict fails, or is passed on. -/
theorem start_requestFiltered_unjudged (hs : s.leavesOut = true) (hname : judgedName? r = none) :
    (∃ e, (requestFiltered r.kind r.details).start s = (.error e, s)) ∨
      (requestFiltered r.kind r.details).start s =
        (do return some (← requestPlain r.kind r.details) : Doc SymbolSlot).start s := by
  unfold judgedName? at hname
  rw [requestFiltered, Attempt.start_bind_ok (Attempt.start_get s), hs]
  cases hdisplay : Request.display? { kind := r.kind, details := r.details } with
  | none => exact Or.inl ⟨_, rfl⟩
  | some shown =>
    rw [show r.display? = some shown from hdisplay] at hname
    cases shown with
    | null => cases hname
    | text name => cases hname
    | list items => exact Or.inl ⟨_, rfl⟩
    | dict entries => exact Or.inl ⟨_, rfl⟩
    | bool b => exact Or.inr rfl
    | int n => exact Or.inr rfl
    | real written => exact Or.inr rfl

/-- **A request is left out by the verdict on it.** -/
theorem isLeftOut_iff (hs : s.leavesOut = true) :
    IsLeftOut s r ↔ ∃ name, judgedName? r = some name ∧ verdict s.index s.leftOut r.kind name ≠ .keep := by
  unfold IsLeftOut
  cases hname : judgedName? r with
  | none =>
    constructor
    · rintro ⟨hnone, -⟩
      rcases start_requestFiltered_unjudged hs hname with ⟨e, hstart⟩ | hstart
      · rw [hstart] at hnone
        cases hnone
      · rw [hstart] at hnone
        exact absurd hnone (start_passedOn s r.kind r.details).1
    · rintro ⟨name, hnone, -⟩
      cases hnone
  | some name =>
    rw [start_requestFiltered_judged hs hname, judged]
    cases hverdict : verdict s.index s.leftOut r.kind name with
    | keep =>
      refine ⟨fun h => absurd h.1 (start_passedOn s r.kind r.details).1, ?_⟩
      rintro ⟨name', hsame, hkeep⟩
      cases hsame
      exact absurd hverdict hkeep
    | drop => exact ⟨fun _ => ⟨name, rfl, by rw [hverdict]; nofun⟩, fun _ => ⟨rfl, rfl⟩⟩
    | dropAlways message => exact ⟨fun _ => ⟨name, rfl, by rw [hverdict]; nofun⟩, fun _ => ⟨rfl, rfl⟩⟩
    | dropOnce message => exact ⟨fun _ => ⟨name, rfl, by rw [hverdict]; nofun⟩, fun _ => ⟨rfl, rfl⟩⟩

/-! ## The names that are kept -/

/-- **What one request does to the names that are kept:** its own is added if the verdict on it alone is kept. -/
theorem afterOne_eq (hs : s.leavesOut = true) (r : Request) :
    ∃ requests database log leftOut, afterOne s r = { s with requests, database, log, leftOut } ∧
      ∀ name, name ∈ leftOut ↔ name ∈ s.leftOut ∨ judgedName? r = some name ∧ IsDroppedForGood s.index r.kind name := by
  unfold afterOne
  obtain ⟨-, requests, database, hpassed⟩ := start_passedOn s r.kind r.details
  cases hname : judgedName? r with
  | none =>
    rcases start_requestFiltered_unjudged hs hname with ⟨e, hstart⟩ | hstart
    · exact ⟨s.requests, s.database, s.log, s.leftOut, by rw [hstart], fun name => by simp⟩
    · exact ⟨requests, database, s.log, s.leftOut, by rw [hstart, hpassed], fun name => by simp⟩
  | some name =>
    rw [start_requestFiltered_judged hs hname, judged, verdict]
    by_cases hmem : name ∈ s.leftOut
    · -- nothing more is done for a name that is kept already
      rw [if_pos hmem]
      refine ⟨s.requests, s.database, s.log, s.leftOut, rfl, fun name' => ⟨Or.inl, ?_⟩⟩
      rintro (h | ⟨hsame, -⟩)
      · exact h
      · cases hsame
        exact hmem
    · rw [if_neg hmem]
      have hnot {v : Verdict} (hv : freshVerdict s.index r.kind name = v) (hne : ∀ message, v ≠ .dropOnce message)
          (name' : Option String) : name' ∈ s.leftOut ↔
            name' ∈ s.leftOut ∨ some name = some name' ∧ IsDroppedForGood s.index r.kind name' := by
        refine ⟨Or.inl, ?_⟩
        rintro (h | ⟨hsame, message, hkept⟩)
        · exact h
        · cases hsame
          exact absurd (hv.symm.trans hkept) (hne message)
      cases hverdict : freshVerdict s.index r.kind name with
      | keep => exact ⟨requests, database, s.log, s.leftOut, hpassed, hnot hverdict (by simp)⟩
      | drop => exact ⟨s.requests, s.database, s.log, s.leftOut, rfl, hnot hverdict (by simp)⟩
      | dropAlways message => exact ⟨s.requests, s.database, _, s.leftOut, rfl, hnot hverdict (by simp)⟩
      | dropOnce message =>
        refine ⟨s.requests, s.database, _, insertNew s.leftOut name, rfl, fun name' => ?_⟩
        rw [mem_insertNew]
        refine or_congr_right ⟨?_, ?_⟩
        · rintro rfl
          exact ⟨rfl, message, hverdict⟩
        · rintro ⟨hsame, -⟩
          cases hsame
          rfl

/-! ## Many requests -/

/-- The session after requests, one after the other. -/
def afterRequests (s : Session) (requests : List Request) : Session := requests.foldl afterOne s

/-- **What requests do to the names that are kept.** -/
theorem afterRequests_eq (hs : s.leavesOut = true) (calls : List Request) :
    ∃ requests database log leftOut, afterRequests s calls = { s with requests, database, log, leftOut } ∧
      ∀ name, name ∈ leftOut ↔ name ∈ s.leftOut ∨
        ∃ q ∈ calls, judgedName? q = some name ∧ IsDroppedForGood s.index q.kind name := by
  induction calls generalizing s with
  | nil => exact ⟨s.requests, s.database, s.log, s.leftOut, rfl, fun name => by simp⟩
  | cons q rest ih =>
    obtain ⟨requests, database, log, leftOut, hone, hmem⟩ := afterOne_eq hs q
    obtain ⟨requests', database', log', leftOut', hrest, hmem'⟩ := ih (s := afterOne s q) (by rw [hone]; exact hs)
    refine ⟨requests', database', log', leftOut', ?_, fun name => ?_⟩
    · show afterRequests (afterOne s q) rest = _
      rw [hrest, hone]
    · rw [hmem', hone, hmem, or_assoc, List.exists_mem_cons_iff]

/-- A session in which superfluous symbols are left out and nothing was requested yet. -/
def filtering (s : Session) : Session := { s with leavesOut := true, leftOut := [] }

/-- **A request is left out after others exactly if it is left out alone, or a private structure of its name was
requested before as a structure.** -/
theorem isLeftOut_afterRequests_iff (s : Session) (calls : List Request) (r : Request) :
    IsLeftOut (afterRequests (filtering s) calls) r ↔ IsLeftOut (filtering s) r ∨
      ∃ name, r.display? = some (.text name) ∧ IsPrivateStructure s.index name ∧
        ∃ q ∈ calls, q.kind = .struct ∧ q.display? = some (.text name) := by
  obtain ⟨requests, database, log, leftOut, hafter, hmem⟩ := afterRequests_eq (s := filtering s) rfl calls
  have hs : (afterRequests (filtering s) calls).leavesOut = true := by rw [hafter]; rfl
  rw [isLeftOut_iff hs, isLeftOut_iff (s := filtering s) rfl, hafter]
  simp only [verdict_ne_keep_iff, hmem, filtering, List.not_mem_nil, false_or]
  constructor
  · rintro ⟨name, hname, ⟨q, hq, hqname, hkept⟩ | hfresh⟩
    · rcases isDroppedForGood_iff.mp hkept with hmacros | htype | ⟨hkind, text, rfl, hprivate⟩
      · -- what a class has is left out as any kind of symbol
        obtain ⟨message, hsame⟩ : IsDroppedForGood s.index r.kind name := isDroppedForGood_iff.mpr (.inl hmacros)
        exact .inl ⟨name, hname, by rw [hsame]; nofun⟩
      · obtain ⟨message, hsame⟩ : IsDroppedForGood s.index r.kind name := isDroppedForGood_iff.mpr (.inr (.inl htype))
        exact .inl ⟨name, hname, by rw [hsame]; nofun⟩
      · exact .inr ⟨text, judgedName?_eq_text_iff.mp hname, hprivate, q, hq, hkind,
          judgedName?_eq_text_iff.mp hqname⟩
    · exact .inl ⟨name, hname, hfresh⟩
  · rintro (⟨name, hname, hfresh⟩ | ⟨text, hname, hprivate, q, hq, hkind, hqname⟩)
    · exact ⟨name, hname, .inr hfresh⟩
    · refine ⟨some text, judgedName?_eq_text_iff.mpr hname, .inl ⟨q, hq, judgedName?_eq_text_iff.mpr hqname, ?_⟩⟩
      exact isDroppedForGood_iff.mpr (.inr (.inr ⟨hkind, text, rfl, hprivate⟩))

/-- A private structure and nothing else. -/
def privateRecord : Element :=
  .mk (core "repository") [] [.mk (core "namespace")
    [("name", "N"), (c "identifier-prefixes", "N"), (c "symbol-prefixes", "n")]
    [.mk (core "record") [("name", "Foo"), (c "type", "NFoo"), ("disguised", "1")] []]]

/-- A session that has read the structure. -/
def privateRecordRead : Session where
  environment := {}
  index := indexOf privateRecord

/-- A request for a symbol with the name of the structure. -/
def requestFoo (kind : SymbolKind) : Request := { kind, details := [.displayName (some "NFoo")] }

/-- **A verdict that depends on the order of requests.** Another name for the structure is left out after the
structure, and not alone. -/
theorem otherName_leftOut_after_structure :
    IsLeftOut (afterRequests (filtering privateRecordRead) [requestFoo .struct]) (requestFoo .otherName) ∧
      ¬ IsLeftOut (filtering privateRecordRead) (requestFoo .otherName) := by
  constructor
  · rw [isLeftOut_iff (by decide +kernel)]
    exact ⟨some "NFoo", rfl, by decide +kernel⟩
  · rw [isLeftOut_iff rfl]
    rintro ⟨name, hname, hverdict⟩
    cases hname
    exact hverdict (by decide +kernel)

end GirDoc.Gir
