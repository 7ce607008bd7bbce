import GirDoc.Proofs.Gir.Parameters

/-!
# Updating a function twice

A page may be resolved more than once, and then its functions are updated again. A function that was updated is a
function with the same parameters, so it can be. All that a second update notes was noted by the first one, other than
the items of the result, which are made anew and hold the same.

* `Updated.again` says this of two updates of which each did what it does (`Updated`).
* `parameters_paired_by_position` puts it together with which parameters are paired, and when that fails.
-/

namespace GirDoc.Gir

open Session Xml

variable {n p r : Node} {s t t' : Session} {id i : SymbolId} {ids : List SymbolId} {name : String}

/-! ## Noting twice -/

theorem setAttribute_eq_self {y : Symbol} {key : String} {a : Attribute} (h : y.attributes.lookup key = some a) :
    y.setAttribute key a = y := by
  rw [Symbol.setAttribute, Value.put_eq_self h]

/-- A parameter that was paired has all that pairing gives it. -/
theorem paired_paired (x : Index) (p : Node) (y : Symbol) : paired x p (paired x p y) = paired x p y := by
  have hname : (paired x p y).attributes.lookup "gi_name" =
      some (.value ((parameterSymbol x p).attributeValue "gi_name")) := by
    simp [paired, Symbol.setAttribute, Value.lookup_put]
  have hdirection : (paired x p y).attributes.lookup "direction" =
      some (.value ((parameterSymbol x p).attributeValue "direction")) := by
    simp [paired, Symbol.setAttribute, Value.lookup_put]
  conv_lhs => rw [paired]
  rw [setAttribute_eq_self hname, setAttribute_eq_self hdirection]

/-- A function that was updated has all that updating gives it, other than another result. -/
theorem updatedFunction_updatedFunction (n : Node) (ids : List SymbolId) (result result' : List SymbolSlot)
    (f : Symbol) : updatedFunction n ids result' (updatedFunction n ids result f) =
      { updatedFunction n ids result f with returnValue := result' } := by
  unfold updatedFunction noted
  split
  -- the plain values that are dropped were dropped before
  all_goals
    simp only [marked, Symbol.setAttribute, Symbol.dropPlain, Value.put_put, List.filter_filter]
    congr 1
    refine List.filter_congr fun e _ => ?_
    grind

theorem withNames_withNames (names : Names) (n : Node) (name : String) (parts : List String) :
    withNames (withNames names n name parts) n name parts = withNames names n name parts := by
  unfold withNames
  split
  · simp only [Value.put_put]
  · split
    · simp only [Value.put_put]
    · rfl

/-! ## Updating twice -/

/-- What places hold. -/
def held (s : Session) (slots : List SymbolSlot) : List (Option (Option Symbol)) :=
  slots.map (·.map s.database.get?)

theorem held_of_fills {items : List (Option Symbol)} {slots : List SymbolSlot}
    (h : List.Forall₂ (Fills s t) items slots) : held t slots = items.map (·.map some) := by
  induction h with
  | nil => rfl
  | cons hfirst _ ih =>
    rw [List.map_cons, ← ih]
    cases hfirst with
    | empty => rfl
    | made h => rw [Option.map_some, ← h.there]; rfl

/-- Nothing that is known of a function was changed. Its result has the same items, in places of their own. -/
structure Unchanged (id : SymbolId) (s t : Session) : Prop where
  index : t.index = s.index
  names : t.names = s.names
  kept : ∀ j y, j ≠ id → s.database.get? j = some y → t.database.get? j = some y
  function : ∃ f result, s.database.get? id = some f ∧ t.database.get? id = some { f with returnValue := result } ∧
    held t result = held s f.returnValue

/-- The element in the place of a parameter. -/
theorem exists_getElem?_zip {ps : List Node} (hlength : ids.length ≤ ps.length) {k : Nat} (hi : ids[k]? = some i) :
    ∃ p, ps[k]? = some p ∧ (p, i) ∈ ps.zip ids := by
  obtain ⟨hk, -⟩ := List.getElem?_eq_some_iff.mp hi
  have hp : ps[k]? = some ps[k] := List.getElem?_eq_getElem (Nat.lt_of_lt_of_le hk hlength)
  exact ⟨ps[k], hp, List.mem_of_getElem? (List.getElem?_zip_eq_some.mpr ⟨hp, hi⟩)⟩

theorem exists_mem_zip (hlength : (ownIds n ids).length ≤ (describedNodes n).length) (hi : i ∈ ownIds n ids) :
    ∃ p, (p, i) ∈ (describedNodes n).zip (ownIds n ids) := by
  obtain ⟨k, hk⟩ := List.mem_iff_getElem?.mp hi
  obtain ⟨p, -, hp⟩ := exists_getElem?_zip hlength hk
  exact ⟨p, hp⟩

@[simp] theorem parameters_updatedFunction (n : Node) (ids : List SymbolId) (result : List SymbolSlot) (f : Symbol) :
    (updatedFunction n ids result f).parameters = f.parameters :=
  parameters_noted n result (marked n f)

@[simp] theorem returnValue_updatedFunction (n : Node) (ids : List SymbolId) (result : List SymbolSlot) (f : Symbol) :
    (updatedFunction n ids result f).returnValue = result :=
  returnValue_noted n result (marked n f)

/-- A function that was updated can be updated again. -/
theorem Updated.isFunction (h : Updated n r name id ids s t) (hfunction : IsFunction s.database id ids)
    (hlength : (ownIds n ids).length ≤ (describedNodes n).length) : IsFunction t.database id ids where
  function := by
    obtain ⟨f, hf, htakes, hparameters⟩ := hfunction.function
    obtain ⟨f', result, hf', hupdated, -⟩ := h.function
    cases hf.symm.trans hf'
    refine ⟨_, hupdated, ?_, by rw [parameters_updatedFunction, hparameters]⟩
    exact takesAttributes_noted (takesAttributes_marked htakes n) n result
  parameter i hi := by
    obtain ⟨y, hy, htakes⟩ := hfunction.parameter i hi
    by_cases hown : i ∈ ownIds n ids
    · obtain ⟨p, hp⟩ := exists_mem_zip hlength hown
      obtain ⟨y', hy', hpaired⟩ := h.parameter _ hp
      cases hy.symm.trans hy'
      exact ⟨_, hpaired, htakes⟩
    · have hne : i ≠ id := by
        rintro rfl
        exact (List.nodup_cons.mp hfunction.distinct).1 hi
      exact ⟨y, h.kept i y hne hown hy, htakes⟩
  distinct := hfunction.distinct

/-- **A second update changes nothing.** -/
theorem Updated.again (h : Updated n r name id ids s t) (h' : Updated n r name id ids t t')
    (hlength : (ownIds n ids).length ≤ (describedNodes n).length) : Unchanged id t t' where
  index := h'.index
  names := by
    obtain ⟨parts, hparts, hnames⟩ := h.names
    obtain ⟨parts', hparts', hnames'⟩ := h'.names
    cases hparts.symm.trans hparts'
    rw [hnames', hnames, withNames_withNames]
  kept j y hj hy := by
    by_cases hown : j ∈ ownIds n ids
    · obtain ⟨p, hp⟩ := exists_mem_zip hlength hown
      obtain ⟨z, -, hz⟩ := h.parameter _ hp
      obtain ⟨z', hz', hpaired⟩ := h'.parameter _ hp
      cases hz.symm.trans hz'
      rw [hpaired, h.index, paired_paired, ← hz, hy]
    · exact h'.kept j y hj hown hy
  function := by
    obtain ⟨f, result, -, hf, hfills⟩ := h.function
    obtain ⟨f', result', hf', hupdated, hfills'⟩ := h'.function
    cases hf.symm.trans hf'
    refine ⟨_, result', hf, ?_, ?_⟩
    · rw [hupdated, updatedFunction_updatedFunction]
    · rw [returnValue_updatedFunction, held_of_fills hfills', held_of_fills hfills, h.index]

/-- **Parameters are paired by position.** Updating a function fails for want of a parameter exactly if C has more of
them than the element of the function describes, where the last one does not count if the function throws. Otherwise
each of them gets the direction and the name of the type of the one in its place. The list of parameters, the one that
does not count and all other symbols stay as they are, and to update the function again changes nothing. -/
theorem parameters_paired_by_position (s : Session) (id : SymbolId) (name : String) (n : Node) (ids : List SymbolId)
    (hn : IsDescribed n) (hfunction : IsFunction s.database id ids) :
    (((updateFunction id name n).start s).1 = .error .outOfRange ↔
      (describedNodes n).length < (ownIds n ids).length) ∧
    ((ownIds n ids).length ≤ (describedNodes n).length →
      ∃ t, (updateFunction id name n).start s = (.ok (), t) ∧
        (∀ (k : Nat) i, (ownIds n ids)[k]? = some i → ∃ p y, (describedNodes n)[k]? = some p ∧
          s.database.get? i = some y ∧ t.database.get? i = some (paired s.index p y)) ∧
        (t.database.get? id).map Symbol.parameters = some (ids.map some) ∧
        (∀ j y, j ≠ id → j ∉ ownIds n ids → s.database.get? j = some y → t.database.get? j = some y) ∧
        ∃ t', (updateFunction id name n).start t = (.ok (), t') ∧ Unchanged id t t') := by
  obtain ⟨r, hr, -⟩ := hn.returns
  obtain ⟨t, hstart, hupdated⟩ := start_updateFunction_cases hn hfunction hr name
  constructor
  · rw [hstart]
    split
    · next hlength => simp [Nat.not_lt.mpr hlength]
    · next hlength => simp [Nat.lt_of_not_le hlength]
  · intro hlength
    have h := hupdated hlength
    have hfunction' := h.isFunction hfunction hlength
    obtain ⟨t', hstart', hupdated'⟩ := start_updateFunction_cases hn hfunction' hr name
    rw [if_pos hlength] at hstart hstart'
    refine ⟨t, hstart, fun k i hi => ?_, ?_, h.kept, t', hstart', h.again (hupdated' hlength) hlength⟩
    · obtain ⟨p, hp, hmem⟩ := exists_getElem?_zip hlength hi
      obtain ⟨y, hy, hpaired⟩ := h.parameter _ hmem
      exact ⟨p, y, hp, hy, hpaired⟩
    · obtain ⟨f, hf, -, hparameters⟩ := hfunction'.function
      rw [hf, Option.map_some, hparameters]

/-- The parameter `width` is set, and that for the error stays as it is. -/
theorem parameters_paired_measure :
    IsDescribed measure ∧ IsFunction measureSession.database 0 [1, 2, 3, 4, 5] ∧
    ∃ t t', (updateFunction 0 "n_measure" measure).start measureSession = (.ok (), t) ∧
      (t.database.get? 2).map (·.attributeValue "direction") = some (.text "out") ∧
      t.database.get? 5 = some { kind := .parameter } ∧
      (updateFunction 0 "n_measure" measure).start t = (.ok (), t') ∧ Unchanged 0 t t' := by
  have hn : IsDescribed measure := by decide +kernel
  have hfunction : IsFunction measureSession.database 0 [1, 2, 3, 4, 5] := by
    refine ⟨⟨_, rfl, rfl, rfl⟩, fun i hi => ?_, by decide⟩
    simp only [List.mem_cons, List.not_mem_nil, or_false] at hi
    rcases hi with rfl | rfl | rfl | rfl | rfl <;> exact ⟨_, rfl, rfl⟩
  have hown : ownIds measure [1, 2, 3, 4, 5] = [1, 2, 3, 4] := rfl
  obtain ⟨t, hstart, hpaired, -, hkept, t', hstart', hunchanged⟩ := (parameters_paired_by_position measureSession 0
    "n_measure" measure [1, 2, 3, 4, 5] hn hfunction).2 (by rw [hown]; rfl)
  refine ⟨hn, hfunction, t, t', hstart, ?_, ?_, hstart', hunchanged⟩
  · obtain ⟨p, y, hp, hy, hwidth⟩ := hpaired 1 2 (by rw [hown]; rfl)
    cases hp
    rw [hwidth, Option.map_some, paired, attributeValue_setAttribute]
    rfl
  · exact hkept 5 _ (by decide) (by rw [hown]; decide) rfl

end GirDoc.Gir
