import Mathlib.Data.String.Basic
import Mathlib.Tactic.Tauto
import GirDoc.Value.Access
import GirDoc.VersionList

/-!
# Total orders of values

Which values can be put in order: numbers with truth values, texts, and lists of such values. `Shape` says of which of
these kinds a value is. Values of one shape are in a total order (`isTotalOn_shape`), in which values may be the same
without being equal: the truth value `true` is the same as the number 1.
-/

namespace GirDoc.VersionList

/-- One value comes before another. -/
def Comparison.Below {α : Type} (cmp : Comparison α) (v w : α) : Prop := cmp.less v w = .ok true

instance {α : Type} (cmp : Comparison α) (v w : α) : Decidable (cmp.Below v w) :=
  inferInstanceAs (Decidable (cmp.less v w = .ok true))

/-- The values of a class are in a total order, in which values are the same if none comes before the other. -/
structure Comparison.IsTotalOn {α : Type} (cmp : Comparison α) (S : α → Prop) : Prop where
  compares : ∀ v w, S v → S w → ∃ r, cmp.less v w = .ok r
  asymm : ∀ v w, S v → S w → cmp.Below v w → ¬cmp.Below w v
  below_or_below : ∀ u v w, S u → S v → S w → cmp.Below u w → cmp.Below u v ∨ cmp.Below v w
  same_iff : ∀ v w, S v → S w → (cmp.same v w = true ↔ ¬cmp.Below v w ∧ ¬cmp.Below w v)

theorem Comparison.IsTotalOn.mono {α : Type} {cmp : Comparison α} {S T : α → Prop} (h : cmp.IsTotalOn S)
    (hsub : ∀ v, T v → S v) : cmp.IsTotalOn T where
  compares v w hv hw := h.compares v w (hsub v hv) (hsub w hw)
  asymm v w hv hw := h.asymm v w (hsub v hv) (hsub w hw)
  below_or_below u v w hu hv hw := h.below_or_below u v w (hsub u hu) (hsub v hv) (hsub w hw)
  same_iff v w hv hw := h.same_iff v w (hsub v hv) (hsub w hw)

/-- What is ordered as the values of a function are is in a total order. -/
theorem isTotalOn_of_rank {α β : Type} [LinearOrder β] {cmp : Comparison α} {S : α → Prop} (rank : α → β)
    (hless : ∀ v w, S v → S w → cmp.less v w = .ok (decide (rank v < rank w)))
    (hsame : ∀ v w, S v → S w → (cmp.same v w = true ↔ rank v = rank w)) : cmp.IsTotalOn S := by
  have hbelow : ∀ v w, S v → S w → (cmp.Below v w ↔ rank v < rank w) := by
    intro v w hv hw
    simp [Comparison.Below, hless v w hv hw]
  constructor
  · intro v w hv hw
    exact ⟨_, hless v w hv hw⟩
  · intro v w hv hw
    rw [hbelow v w hv hw, hbelow w v hw hv]
    exact lt_asymm
  · intro u v w hu hv hw
    rw [hbelow u w hu hw, hbelow u v hu hv, hbelow v w hv hw]
    intro hlt
    by_contra hnot
    rw [not_or, not_lt, not_lt] at hnot
    exact absurd hlt (not_lt.mpr (hnot.2.trans hnot.1))
  · intro v w hv hw
    rw [hbelow v w hv hw, hbelow w v hw hv, hsame v w hv hw, not_lt, not_lt, and_comm]
    exact le_antisymm_iff

/-! ## Numbers and texts -/

/-- The kinds of values that are in order with each other. -/
inductive Shape where
  | number
  | text
  | list (items : Shape)

/-- A value is of a shape: a number or truth value, a text, or a list of values of one shape. -/
def Shape.Fits : Shape → Value → Prop
  | number, v => ∃ n, v.number? = some n
  | text, v => ∃ s, v = .text s
  | list items, v => ∃ vs, v = .list vs ∧ ∀ w ∈ vs, items.Fits w

theorem less?_of_number {v w : Value} {m n : Int} (hv : v.number? = some m) (hw : w.number? = some n) :
    v.less? w = some (decide (m < n)) := by
  cases v <;> cases w <;> simp_all [Value.number?, Value.less?]

theorem same_of_number {v w : Value} {m n : Int} (hv : v.number? = some m) (hw : w.number? = some n) :
    v.same w = (m == n) := by
  cases v <;> cases w <;> simp_all [Value.number?, Value.same]

theorem isTotalOn_number : ofValues.IsTotalOn Shape.number.Fits := by
  refine isTotalOn_of_rank (fun v => v.number?.getD 0) ?_ ?_
  · rintro v w ⟨m, hm⟩ ⟨n, hn⟩
    simp [ofValues, less?_of_number hm hn, hm, hn]
  · rintro v w ⟨m, hm⟩ ⟨n, hn⟩
    simp [ofValues, same_of_number hm hn, hm, hn]

theorem isTotalOn_text : ofValues.IsTotalOn Shape.text.Fits := by
  refine isTotalOn_of_rank (Value.textOr "") ?_ ?_
  · rintro v w ⟨s, rfl⟩ ⟨t, rfl⟩
    simp [ofValues, Value.less?, Value.textOr, Value.text?]
  · rintro v w ⟨s, rfl⟩ ⟨t, rfl⟩
    simp [ofValues, Value.same, Value.textOr, Value.text?]

/-! ## Lists -/

theorem below_ofValues_iff {v w : Value} : ofValues.Below v w ↔ v.less? w = some true := by
  unfold Comparison.Below ofValues
  dsimp only
  split <;> simp_all

section Lists

variable {S : Value → Prop} (htotal : ofValues.IsTotalOn S)
include htotal

/-- Lists are in the order of their first items that are not the same. -/
theorem lessItems?_cons_iff {v w : Value} {vs ws : List Value} (hv : S v) (hw : S w) :
    Value.lessItems? (v :: vs) (w :: ws) = some true ↔
      ofValues.Below v w ∨ (v.same w = true ∧ Value.lessItems? vs ws = some true) := by
  have hsame : v.same w = true ↔ _ := htotal.same_iff v w hv hw
  rw [Value.lessItems?, below_ofValues_iff]
  split
  · rename_i h
    have hnot := (hsame.mp h).1
    rw [below_ofValues_iff] at hnot
    tauto
  · tauto

theorem exists_lessItems? {vs ws : List Value} (hvs : ∀ v ∈ vs, S v) (hws : ∀ w ∈ ws, S w) :
    ∃ r, Value.lessItems? vs ws = some r := by
  induction vs generalizing ws with
  | nil => cases ws <;> exact ⟨_, rfl⟩
  | cons v vs ih =>
    cases ws with
    | nil => exact ⟨_, rfl⟩
    | cons w ws =>
      rw [List.forall_mem_cons] at hvs hws
      rw [Value.lessItems?]
      split
      · exact ih hvs.2 hws.2
      · obtain ⟨r, hr⟩ := htotal.compares v w hvs.1 hws.1
        refine ⟨r, ?_⟩
        unfold ofValues at hr
        dsimp only at hr
        split at hr <;> simp_all

theorem lessItems?_asymm {vs ws : List Value} (hvs : ∀ v ∈ vs, S v) (hws : ∀ w ∈ ws, S w)
    (h : Value.lessItems? vs ws = some true) : ¬Value.lessItems? ws vs = some true := by
  induction vs generalizing ws with
  | nil => cases ws <;> simp_all [Value.lessItems?]
  | cons v vs ih =>
    cases ws with
    | nil => simp [Value.lessItems?] at h
    | cons w ws =>
      rw [List.forall_mem_cons] at hvs hws
      obtain ⟨hv, hvs⟩ := hvs
      obtain ⟨hw, hws⟩ := hws
      rw [lessItems?_cons_iff htotal hv hw] at h
      rw [lessItems?_cons_iff htotal hw hv]
      have hsame : v.same w = true ↔ _ := htotal.same_iff v w hv hw
      have hsame' : w.same v = true ↔ _ := htotal.same_iff w v hw hv
      have hasymm := htotal.asymm v w hv hw
      have := ih hvs hws
      tauto

theorem lessItems?_or {us vs ws : List Value} (hus : ∀ u ∈ us, S u) (hvs : ∀ v ∈ vs, S v) (hws : ∀ w ∈ ws, S w)
    (h : Value.lessItems? us ws = some true) :
    Value.lessItems? us vs = some true ∨ Value.lessItems? vs ws = some true := by
  induction us generalizing vs ws with
  | nil => cases vs <;> cases ws <;> simp_all [Value.lessItems?]
  | cons u us ih =>
    cases ws with
    | nil => simp [Value.lessItems?] at h
    | cons w ws =>
      cases vs with
      | nil => exact .inr rfl
      | cons v vs =>
        rw [List.forall_mem_cons] at hus hvs hws
        obtain ⟨hu, hus⟩ := hus
        obtain ⟨hv, hvs⟩ := hvs
        obtain ⟨hw, hws⟩ := hws
        rw [lessItems?_cons_iff htotal hu hw] at h
        rw [lessItems?_cons_iff htotal hu hv, lessItems?_cons_iff htotal hv hw]
        rcases h with hbelow | ⟨hsame, hrest⟩
        · rcases htotal.below_or_below u v w hu hv hw hbelow with h | h
          · exact .inl (.inl h)
          · exact .inr (.inl h)
        -- the first items of `us` and `ws` are the same, so that of `vs` is before, after or the same as both
        obtain ⟨huw, hwu⟩ := (htotal.same_iff u w hu hw).mp hsame
        by_cases huv : ofValues.Below u v
        · exact .inl (.inl huv)
        by_cases hvw : ofValues.Below v w
        · exact .inr (.inl hvw)
        have hvu : ¬ofValues.Below v u := fun h =>
          (htotal.below_or_below v w u hv hw hu h).elim hvw hwu
        have hwv : ¬ofValues.Below w v := fun h =>
          (htotal.below_or_below w u v hw hu hv h).elim hwu huv
        rcases ih hus hvs hws hrest with h | h
        · exact .inl (.inr ⟨(htotal.same_iff u v hu hv).mpr ⟨huv, hvu⟩, h⟩)
        · exact .inr (.inr ⟨(htotal.same_iff v w hv hw).mpr ⟨hvw, hwv⟩, h⟩)

theorem sameItems_iff {vs ws : List Value} (hvs : ∀ v ∈ vs, S v) (hws : ∀ w ∈ ws, S w) :
    Value.sameItems vs ws = true ↔
      ¬Value.lessItems? vs ws = some true ∧ ¬Value.lessItems? ws vs = some true := by
  induction vs generalizing ws with
  | nil => cases ws <;> simp [Value.lessItems?, Value.sameItems]
  | cons v vs ih =>
    cases ws with
    | nil => simp [Value.lessItems?, Value.sameItems]
    | cons w ws =>
      rw [List.forall_mem_cons] at hvs hws
      obtain ⟨hv, hvs⟩ := hvs
      obtain ⟨hw, hws⟩ := hws
      rw [lessItems?_cons_iff htotal hv hw, lessItems?_cons_iff htotal hw hv, Value.sameItems, Bool.and_eq_true,
        ih hvs hws]
      have hsame : v.same w = true ↔ _ := htotal.same_iff v w hv hw
      have hsame' : w.same v = true ↔ _ := htotal.same_iff w v hw hv
      tauto

end Lists

/-- Values of one shape are in a total order. -/
theorem isTotalOn_shape (shape : Shape) : ofValues.IsTotalOn shape.Fits := by
  induction shape with
  | number => exact isTotalOn_number
  | text => exact isTotalOn_text
  | list items ih =>
    constructor
    · rintro v w ⟨vs, rfl, hvs⟩ ⟨ws, rfl, hws⟩
      obtain ⟨r, hr⟩ := exists_lessItems? ih hvs hws
      exact ⟨r, by simp [ofValues, Value.less?, hr]⟩
    · rintro v w ⟨vs, rfl, hvs⟩ ⟨ws, rfl, hws⟩
      rw [below_ofValues_iff, below_ofValues_iff]
      exact lessItems?_asymm ih hvs hws
    · rintro u v w ⟨us, rfl, hus⟩ ⟨vs, rfl, hvs⟩ ⟨ws, rfl, hws⟩
      rw [below_ofValues_iff, below_ofValues_iff, below_ofValues_iff]
      exact lessItems?_or ih hus hvs hws
    · rintro v w ⟨vs, rfl, hvs⟩ ⟨ws, rfl, hws⟩
      rw [below_ofValues_iff, below_ofValues_iff]
      exact sameItems_iff ih hvs hws

end GirDoc.VersionList
