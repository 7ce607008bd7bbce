import Mathlib.Tactic.ByContra
import Mathlib.Tactic.IntervalCases
import GirDoc.Proofs.Value.Order

/-!
# Searching version lists

All searches go through `bisect`, which asks one question of the elements that it meets. On any list it stops at a
place where the answer changes (`bisect_stopsAt`). If the list is sorted, the answer changes only once, so that place
parts the list in two (`StopsAt.parts`), and the answers of the searches can be read off at it.

* `Parts p a i` says that `p` holds of the elements before place `i` and of no others.
* `Finds` says what a right answer is: the first or last element with a property, or that there is none.
* `searches_right` is about all five searches: on sorted lists they give the right answers, and on any list they stay
  inside it.
-/

namespace GirDoc.VersionList

variable {α β : Type} {goRight : α → Except Failure Bool} {cmp : Comparison α} {a : Array α} {x : α} {i : Nat}
  {p q : α → Prop}

theorem elementAt_of_getElem? {v : α} (h : a[i]? = some v) : elementAt a i = .ok v := by
  rw [elementAt, h]

theorem getElem?_of_elementAt {v : α} (h : elementAt a i = .ok v) : a[i]? = some v := by
  unfold elementAt at h
  split at h
  · cases h
    assumption
  · cases h

/-- Before a place inside a list there is an element, unless the place is the first one. -/
theorem elementBefore_cases (h : i ≤ a.size) :
    (i = 0 ∧ elementBefore a i = .error .notFound) ∨
      ∃ j v, i = j + 1 ∧ a[j]? = some v ∧ elementBefore a i = .ok v := by
  cases i with
  | zero => exact .inl ⟨rfl, rfl⟩
  | succ j =>
    have hj : a[j]? = some a[j] := Array.getElem?_eq_getElem h
    exact .inr ⟨j, a[j], rfl, hj, elementAt_of_getElem? hj⟩

/-- After a place inside a list there is an element, unless the place is the last one. -/
theorem elementAfter_cases (h : i ≤ a.size) :
    (i = a.size ∧ elementAfter a i = .error .notFound) ∨
      ∃ v, a[i]? = some v ∧ elementAfter a i = .ok v := by
  unfold elementAfter
  by_cases hend : i = a.size
  · exact .inl ⟨hend, if_pos hend⟩
  · have hlt : i < a.size := Nat.lt_of_le_of_ne h hend
    have hi : a[i]? = some a[i] := Array.getElem?_eq_getElem hlt
    exact .inr ⟨a[i], hi, by rw [if_neg hend, elementAt_of_getElem? hi]⟩

theorem index_of_notFound (hi : leftPlace cmp a x = .ok i) (h : elementAfter a i = .error .notFound) :
    index cmp a x = .error .notFound := by
  simp [index, hi, h, bind, Except.bind]

theorem index_of_element (hi : leftPlace cmp a x = .ok i) {v : α} (h : elementAfter a i = .ok v) :
    index cmp a x = if cmp.same v x then .ok i else .error .notFound := by
  simp [index, hi, h, bind, Except.bind]

/-! ## Where a search stops -/

/-- At place `i` the answer changes: the search goes right of the element before it, but not of the one after it. -/
structure StopsAt (goRight : α → Except Failure Bool) (a : Array α) (lo hi i : Nat) : Prop where
  lo_le : lo ≤ i
  le_hi : i ≤ hi
  before : lo < i → ∃ v, a[i - 1]? = some v ∧ goRight v = .ok true
  after : i < hi → ∃ v, a[i]? = some v ∧ goRight v = .ok false

/-- A search stops inside its range if its question has an answer for every element. -/
theorem bisect_stopsAt (h : ∀ v ∈ a, ∃ r, goRight v = .ok r) {lo hi : Nat} (hle : lo ≤ hi) (hhi : hi ≤ a.size) :
    ∃ i, bisect goRight a lo hi = .ok i ∧ StopsAt goRight a lo hi i := by
  fun_induction bisect goRight a lo hi with
  | case1 lo hi hlt mid e he =>
    have hmid : mid < a.size := by omega
    rw [elementAt_of_getElem? (Array.getElem?_eq_getElem hmid)] at he
    cases he
  | case2 lo hi hlt mid v hv e he =>
    obtain ⟨r, hr⟩ := h v (Array.mem_of_getElem? (getElem?_of_elementAt hv))
    rw [hr] at he
    cases he
  | case3 lo hi hlt mid v hv hright ih =>
    obtain ⟨i, hplace, hstops⟩ := ih (by omega) hhi
    have hlo : mid + 1 ≤ i := hstops.lo_le
    refine ⟨i, hplace, by omega, hstops.le_hi, fun _ => ?_, hstops.after⟩
    -- the element before the place is the middle one, or it was met later
    by_cases hmid : mid + 1 < i
    · exact hstops.before hmid
    · obtain rfl : i = mid + 1 := by omega
      exact ⟨v, getElem?_of_elementAt hv, hright⟩
  | case4 lo hi hlt mid v hv hright ih =>
    obtain ⟨i, hplace, hstops⟩ := ih (by omega) (by omega)
    have hmid : i ≤ mid := hstops.le_hi
    refine ⟨i, hplace, hstops.lo_le, by omega, hstops.before, fun _ => ?_⟩
    by_cases hlt : i < mid
    · exact hstops.after hlt
    · obtain rfl : i = mid := by omega
      exact ⟨v, getElem?_of_elementAt hv, hright⟩
  | case5 lo hi hlt =>
    exact ⟨lo, rfl, Nat.le_refl lo, hle, by omega, by omega⟩

/-! ## Parting a list -/

/-- The elements before place `i` are those that `p` holds of. -/
structure Parts (p : α → Prop) (a : Array α) (i : Nat) : Prop where
  le_size : i ≤ a.size
  holds_iff : ∀ j v, a[j]? = some v → (p v ↔ j < i)

/-- The answer to a question changes only once: if it is yes for an element, it was yes for all before it. -/
def ChangesOnce (p : α → Prop) (a : Array α) : Prop := a.toList.Pairwise fun v w => p w → p v

theorem ChangesOnce.of_le (h : ChangesOnce p a) {j k : Nat} {v w : α} (hv : a[j]? = some v) (hw : a[k]? = some w)
    (hle : j ≤ k) (hp : p w) : p v := by
  obtain ⟨hj, rfl⟩ := Array.getElem?_eq_some_iff.mp hv
  obtain ⟨hk, rfl⟩ := Array.getElem?_eq_some_iff.mp hw
  rcases Nat.eq_or_lt_of_le hle with rfl | hlt
  · exact hp
  · exact List.pairwise_iff_getElem.mp h j k (by simpa using hj) (by simpa using hk) hlt hp

theorem StopsAt.parts (h : StopsAt goRight a 0 a.size i) (honce : ChangesOnce (fun v => goRight v = .ok true) a) :
    Parts (fun v => goRight v = .ok true) a i := by
  refine ⟨h.le_hi, fun j v hv => ⟨fun hright => ?_, fun hlt => ?_⟩⟩
  · -- after the place the answer stays no
    by_contra hge
    have hj := (Array.getElem?_eq_some_iff.mp hv).1
    obtain ⟨w, hw, hwrong⟩ := h.after (by omega)
    have hyes := honce.of_le hw hv (by omega) hright
    rw [hyes] at hwrong
    cases hwrong
  · obtain ⟨w, hw, hyes⟩ := h.before (by omega)
    exact honce.of_le hv hw (by omega) hyes

theorem Parts.congr (h : Parts p a i) (hiff : ∀ v ∈ a, (p v ↔ q v)) : Parts q a i :=
  ⟨h.le_size, fun j v hv => (hiff v (Array.mem_of_getElem? hv)).symm.trans (h.holds_iff j v hv)⟩

/-! ## Right answers -/

/-- The first element that `p` holds of, and its place. -/
def IsFirst (p : α → Prop) (a : Array α) (i : Nat) (v : α) : Prop :=
  a[i]? = some v ∧ p v ∧ ∀ j w, j < i → a[j]? = some w → ¬p w

/-- The last element that `p` holds of, and its place. -/
def IsLast (p : α → Prop) (a : Array α) (i : Nat) (v : α) : Prop :=
  a[i]? = some v ∧ p v ∧ ∀ j w, i < j → a[j]? = some w → ¬p w

/-- A search gives what answers its question, and says that nothing is found exactly if `p` holds of no element. -/
structure Finds (result : Except Failure β) (answers : β → Prop) (p : α → Prop) (a : Array α) : Prop where
  eq_ok_iff : ∀ b, result = .ok b ↔ answers b
  eq_notFound_iff : result = .error .notFound ↔ ∀ v ∈ a, ¬p v

/-- A search gives the first element that `p` holds of. -/
def FindsFirst (result : Except Failure α) (p : α → Prop) (a : Array α) : Prop :=
  Finds result (fun v => ∃ i, IsFirst p a i v) p a

/-- A search gives the last element that `p` holds of. -/
def FindsLast (result : Except Failure α) (p : α → Prop) (a : Array α) : Prop :=
  Finds result (fun v => ∃ i, IsLast p a i v) p a

theorem IsFirst.unique {j : Nat} {v w : α} (h : IsFirst p a i v) (h' : IsFirst p a j w) : i = j ∧ v = w := by
  obtain ⟨hv, hp, hbefore⟩ := h
  obtain ⟨hw, hp', hbefore'⟩ := h'
  rcases Nat.lt_trichotomy i j with hlt | rfl | hgt
  · exact absurd hp (hbefore' i v hlt hv)
  · exact ⟨rfl, Option.some.inj (hv.symm.trans hw)⟩
  · exact absurd hp' (hbefore j w hgt hw)

theorem IsLast.unique {j : Nat} {v w : α} (h : IsLast p a i v) (h' : IsLast p a j w) : i = j ∧ v = w := by
  obtain ⟨hv, hp, hafter⟩ := h
  obtain ⟨hw, hp', hafter'⟩ := h'
  rcases Nat.lt_trichotomy i j with hlt | rfl | hgt
  · exact absurd hp' (hafter j w hlt hw)
  · exact ⟨rfl, Option.some.inj (hv.symm.trans hw)⟩
  · exact absurd hp (hafter' i v hgt hv)

theorem IsFirst.exists_mem {v : α} (h : IsFirst p a i v) : ∃ v ∈ a, p v := ⟨v, Array.mem_of_getElem? h.1, h.2.1⟩

theorem IsLast.exists_mem {v : α} (h : IsLast p a i v) : ∃ v ∈ a, p v := ⟨v, Array.mem_of_getElem? h.1, h.2.1⟩

theorem finds_ok {answers : β → Prop} {b : β} (hb : answers b) (hunique : ∀ b', answers b' → b' = b) {v : α}
    (hv : a[i]? = some v) (hp : p v) : Finds (.ok b) answers p a := by
  constructor
  · intro b'
    constructor
    · intro h
      cases h
      exact hb
    · intro h
      rw [hunique b' h]
  · constructor
    · intro h
      cases h
    · intro h
      exact absurd hp (h v (Array.mem_of_getElem? hv))

theorem finds_notFound {answers : β → Prop} (hnone : ∀ v ∈ a, ¬p v)
    (hanswers : ∀ b, answers b → ∃ v ∈ a, p v) : Finds (.error .notFound) answers p a := by
  constructor
  · intro b
    constructor
    · intro h
      cases h
    · intro h
      obtain ⟨v, hv, hp⟩ := hanswers b h
      exact absurd hp (hnone v hv)
  · exact ⟨fun _ => hnone, fun _ => rfl⟩

/-- Just before the place that parts a list there is the last element with the property. -/
theorem Parts.finds_before (h : Parts p a i) : FindsLast (elementBefore a i) p a := by
  rcases elementBefore_cases h.le_size with ⟨rfl, hnone⟩ | ⟨j, v, rfl, hv, hsome⟩
  · rw [hnone]
    refine finds_notFound (fun v hv hp => ?_) (fun _ hv => hv.elim fun _ hlast => hlast.exists_mem)
    obtain ⟨j, hj⟩ := Array.mem_iff_getElem?.mp hv
    have := (h.holds_iff j v hj).mp hp
    omega
  · have hlast : IsLast p a j v := by
      refine ⟨hv, (h.holds_iff j v hv).mpr (Nat.lt_succ_self j), fun k w hk hw hp => ?_⟩
      have := (h.holds_iff k w hw).mp hp
      omega
    rw [hsome]
    refine finds_ok ⟨j, hlast⟩ ?_ hv hlast.2.1
    rintro w ⟨k, hk⟩
    exact (hk.unique hlast).2

/-- Just after the place that parts a list there is the first element without the property. -/
theorem Parts.finds_after (h : Parts p a i) (hq : ∀ v ∈ a, (q v ↔ ¬p v)) :
    FindsFirst (elementAfter a i) q a := by
  have hiff : ∀ j v, a[j]? = some v → (q v ↔ i ≤ j) := fun j v hv => by
    rw [hq v (Array.mem_of_getElem? hv), h.holds_iff j v hv, Nat.not_lt]
  rcases elementAfter_cases h.le_size with ⟨rfl, hnone⟩ | ⟨v, hv, hsome⟩
  · rw [hnone]
    refine finds_notFound (fun v hv hp => ?_) (fun _ hv => hv.elim fun _ hfirst => hfirst.exists_mem)
    obtain ⟨j, hj⟩ := Array.mem_iff_getElem?.mp hv
    have hle := (hiff j v hj).mp hp
    have hlt := (Array.getElem?_eq_some_iff.mp hj).1
    omega
  · have hfirst : IsFirst q a i v := by
      refine ⟨hv, (hiff i v hv).mpr (Nat.le_refl i), fun k w hk hw hp => ?_⟩
      have := (hiff k w hw).mp hp
      omega
    rw [hsome]
    refine finds_ok ⟨i, hfirst⟩ ?_ hv hfirst.2.1
    rintro w ⟨k, hk⟩
    exact (hk.unique hfirst).2

/-! ## Sorted lists -/

/-- A value comes before `x` or is the same. -/
def Comparison.AtMost (cmp : Comparison α) (v x : α) : Prop := cmp.Below v x ∨ cmp.same v x = true

instance (cmp : Comparison α) (v x : α) : Decidable (cmp.AtMost v x) :=
  inferInstanceAs (Decidable (_ ∨ _))

/-- A value comes after `x` or is the same. -/
def Comparison.AtLeast (cmp : Comparison α) (v x : α) : Prop := cmp.Below x v ∨ cmp.same v x = true

instance (cmp : Comparison α) (v x : α) : Decidable (cmp.AtLeast v x) :=
  inferInstanceAs (Decidable (_ ∨ _))

/-- No element comes before one to its left. -/
def IsSorted (cmp : Comparison α) (a : Array α) : Prop := a.toList.Pairwise fun v w => ¬cmp.Below w v

/-- No comparison of an element with `x` fails. -/
def Compares (cmp : Comparison α) (a : Array α) (x : α) : Prop :=
  ∀ v ∈ a, (∃ r, cmp.less v x = .ok r) ∧ ∃ r, cmp.less x v = .ok r

/-- The elements of a list, and what is searched for. -/
def Involved (a : Array α) (x : α) (v : α) : Prop := v ∈ a ∨ v = x

theorem leftPlace_stopsAt (h : Compares cmp a x) :
    ∃ i, leftPlace cmp a x = .ok i ∧ StopsAt (fun v => cmp.less v x) a 0 a.size i :=
  bisect_stopsAt (fun v hv => (h v hv).1) (Nat.zero_le _) (Nat.le_refl _)

theorem rightPlace_stopsAt (h : Compares cmp a x) :
    ∃ i, rightPlace cmp a x = .ok i ∧ StopsAt (fun v => (cmp.less x v).map (!·)) a 0 a.size i := by
  refine bisect_stopsAt (fun v hv => ?_) (Nat.zero_le _) (Nat.le_refl _)
  obtain ⟨r, hr⟩ := (h v hv).2
  exact ⟨!r, by rw [hr]; rfl⟩

section Sorted

variable (htotal : cmp.IsTotalOn (Involved a x)) (hsorted : IsSorted cmp a)
include htotal

theorem compares_of_isTotalOn : Compares cmp a x := fun v hv =>
  ⟨htotal.compares v x (.inl hv) (.inr rfl), htotal.compares x v (.inr rfl) (.inl hv)⟩

theorem map_not_less_iff {v : α} (hv : v ∈ a) : (cmp.less x v).map (!·) = .ok true ↔ ¬cmp.Below x v := by
  obtain ⟨r, hr⟩ := htotal.compares x v (.inr rfl) (.inl hv)
  rw [Comparison.Below, hr]
  cases r <;> simp [Except.map]

theorem not_below_iff_atMost {v : α} (hv : v ∈ a) : ¬cmp.Below x v ↔ cmp.AtMost v x := by
  unfold Comparison.AtMost
  have hasymm := htotal.asymm v x (.inl hv) (.inr rfl)
  rw [htotal.same_iff v x (.inl hv) (.inr rfl)]
  tauto

include hsorted

theorem leftPlace_parts : ∃ i, leftPlace cmp a x = .ok i ∧ Parts (fun v => cmp.Below v x) a i := by
  obtain ⟨i, hi, hstops⟩ := leftPlace_stopsAt (compares_of_isTotalOn htotal)
  refine ⟨i, hi, hstops.parts ?_⟩
  refine List.Pairwise.imp_of_mem ?_ hsorted
  intro v w hv hw hle hbelow
  have hv : Involved a x v := .inl (Array.mem_def.mpr hv)
  have hw : Involved a x w := .inl (Array.mem_def.mpr hw)
  exact (htotal.below_or_below w v x hw hv (.inr rfl) hbelow).resolve_left hle

theorem rightPlace_parts :
    ∃ i, rightPlace cmp a x = .ok i ∧ Parts (fun v => cmp.AtMost v x) a i := by
  obtain ⟨i, hi, hstops⟩ := rightPlace_stopsAt (compares_of_isTotalOn htotal)
  refine ⟨i, hi, (hstops.parts ?_).congr fun v hv => (map_not_less_iff htotal hv).trans (not_below_iff_atMost htotal hv)⟩
  refine List.Pairwise.imp_of_mem ?_ hsorted
  intro v w hv hw hle
  dsimp only
  rw [map_not_less_iff htotal (Array.mem_def.mpr hv), map_not_less_iff htotal (Array.mem_def.mpr hw)]
  intro hwx hxv
  have hv : Involved a x v := .inl (Array.mem_def.mpr hv)
  have hw : Involved a x w := .inl (Array.mem_def.mpr hw)
  rcases htotal.below_or_below x w v (.inr rfl) hw hv hxv with h | h
  · exact hwx h
  · exact hle h

omit hsorted in
/-- The elements that are the same as `x` stand between its two places. -/
theorem same_iff_between {k : Nat} (hleft : Parts (fun v => cmp.Below v x) a i)
    (hright : Parts (fun v => cmp.AtMost v x) a k) (j : Nat) (v : α) (hv : a[j]? = some v) :
    cmp.same v x = true ↔ i ≤ j ∧ j < k := by
  have hmem := Array.mem_of_getElem? hv
  rw [← hright.holds_iff j v hv, ← not_below_iff_atMost htotal hmem, ← Nat.not_lt, ← hleft.holds_iff j v hv,
    htotal.same_iff v x (.inl hmem) (.inr rfl)]

theorem index_finds :
    Finds (index cmp a x) (fun i => ∃ v, IsFirst (fun v => cmp.same v x = true) a i v)
      (fun v => cmp.same v x = true) a := by
  obtain ⟨i, hi, hleft⟩ := leftPlace_parts htotal hsorted
  obtain ⟨k, -, hright⟩ := rightPlace_parts htotal hsorted
  have hsame := same_iff_between htotal hleft hright
  rcases elementAfter_cases hleft.le_size with ⟨rfl, hnone⟩ | ⟨v, hv, hsome⟩
  · rw [index_of_notFound hi hnone]
    refine finds_notFound (fun v hv hp => ?_) (fun _ hv => hv.elim fun _ hfirst => hfirst.exists_mem)
    obtain ⟨j, hj⟩ := Array.mem_iff_getElem?.mp hv
    have hle := ((hsame j v hj).mp hp).1
    have hlt := (Array.getElem?_eq_some_iff.mp hj).1
    omega
  rw [index_of_element hi hsome]
  by_cases hp : cmp.same v x = true
  · rw [if_pos hp]
    have hfirst : IsFirst (fun v => cmp.same v x = true) a i v := by
      refine ⟨hv, hp, fun j w hj hw hp' => ?_⟩
      have := ((hsame j w hw).mp hp').1
      omega
    refine finds_ok ⟨v, hfirst⟩ ?_ hv hp
    rintro j ⟨w, hw⟩
    exact (hw.unique hfirst).1
  · rw [if_neg hp]
    refine finds_notFound (fun w hw hp' => ?_) (fun _ hv => hv.elim fun _ hfirst => hfirst.exists_mem)
    -- if there were such an element, the one at the left place would be one too
    obtain ⟨j, hj⟩ := Array.mem_iff_getElem?.mp hw
    obtain ⟨hle, hlt⟩ := (hsame j w hj).mp hp'
    exact hp ((hsame i v hv).mpr ⟨Nat.le_refl i, Nat.lt_of_le_of_lt hle hlt⟩)

theorem findLt_finds : FindsLast (findLt cmp a x) (fun v => cmp.Below v x) a := by
  obtain ⟨i, hi, hparts⟩ := leftPlace_parts htotal hsorted
  rw [findLt, hi]
  exact hparts.finds_before

theorem findLe_finds : FindsLast (findLe cmp a x) (fun v => cmp.AtMost v x) a := by
  obtain ⟨i, hi, hparts⟩ := rightPlace_parts htotal hsorted
  rw [findLe, hi]
  exact hparts.finds_before

theorem findGt_finds : FindsFirst (findGt cmp a x) (fun v => cmp.Below x v) a := by
  obtain ⟨i, hi, hparts⟩ := rightPlace_parts htotal hsorted
  rw [findGt, hi]
  exact hparts.finds_after fun v hv => by rw [← not_below_iff_atMost htotal hv, not_not]

theorem findGe_finds : FindsFirst (findGe cmp a x) (fun v => cmp.AtLeast v x) a := by
  obtain ⟨i, hi, hparts⟩ := leftPlace_parts htotal hsorted
  rw [findGe, hi]
  refine hparts.finds_after fun v hv => ?_
  unfold Comparison.AtLeast
  have hasymm := htotal.asymm v x (.inl hv) (.inr rfl)
  rw [htotal.same_iff v x (.inl hv) (.inr rfl)]
  tauto

end Sorted

/-! ## All searches -/

/-- A search gives an element of the list, or says that nothing is found. -/
def StaysInside (result : Except Failure α) (a : Array α) : Prop :=
  (∃ v ∈ a, result = .ok v) ∨ result = .error .notFound

theorem staysInside_elementBefore (h : i ≤ a.size) : StaysInside (elementBefore a i) a := by
  rcases elementBefore_cases h with ⟨-, hnone⟩ | ⟨j, v, -, hv, hsome⟩
  · exact .inr hnone
  · exact .inl ⟨v, Array.mem_of_getElem? hv, hsome⟩

theorem staysInside_elementAfter (h : i ≤ a.size) : StaysInside (elementAfter a i) a := by
  rcases elementAfter_cases h with ⟨-, hnone⟩ | ⟨v, hv, hsome⟩
  · exact .inr hnone
  · exact .inl ⟨v, Array.mem_of_getElem? hv, hsome⟩

/-- The place that is given for `x`, on any list, is one of an element that is the same. -/
theorem index_cases (h : Compares cmp a x) :
    (∃ i v, index cmp a x = .ok i ∧ a[i]? = some v ∧ cmp.same v x = true) ∨ index cmp a x = .error .notFound := by
  obtain ⟨i, hi, hstops⟩ := leftPlace_stopsAt h
  rcases elementAfter_cases hstops.le_hi with ⟨-, hnone⟩ | ⟨v, hv, hsome⟩
  · exact .inr (index_of_notFound hi hnone)
  · rw [index_of_element hi hsome]
    by_cases hsame : cmp.same v x = true
    · exact .inl ⟨i, v, if_pos hsame, hv, hsame⟩
    · exact .inr (if_neg hsame)

/-- **The searches give the right answers on sorted lists and stay inside any list.** On a list sorted by a total order
they find the first element that is the same as `x`, the last one before `x`, the last one at most `x`, the first one
after `x` and the first one at least `x`, and say that there is none exactly if there is none. On any list on which no
comparison fails they give an element of the list or say that there is none, and `index` gives only places of elements
that are the same as `x`. -/
theorem searches_right (cmp : Comparison α) (a : Array α) (x : α) :
    (cmp.IsTotalOn (Involved a x) → IsSorted cmp a →
      Finds (index cmp a x) (fun i => ∃ v, IsFirst (fun v => cmp.same v x = true) a i v)
        (fun v => cmp.same v x = true) a ∧
      FindsLast (findLt cmp a x) (fun v => cmp.Below v x) a ∧
      FindsLast (findLe cmp a x) (fun v => cmp.AtMost v x) a ∧
      FindsFirst (findGt cmp a x) (fun v => cmp.Below x v) a ∧
      FindsFirst (findGe cmp a x) (fun v => cmp.AtLeast v x) a) ∧
    (Compares cmp a x →
      ((∃ i v, index cmp a x = .ok i ∧ a[i]? = some v ∧ cmp.same v x = true) ∨ index cmp a x = .error .notFound) ∧
      StaysInside (findLt cmp a x) a ∧ StaysInside (findLe cmp a x) a ∧
      StaysInside (findGt cmp a x) a ∧ StaysInside (findGe cmp a x) a) := by
  constructor
  · intro htotal hsorted
    exact ⟨index_finds htotal hsorted, findLt_finds htotal hsorted, findLe_finds htotal hsorted,
      findGt_finds htotal hsorted, findGe_finds htotal hsorted⟩
  · intro hcompares
    obtain ⟨i, hi, hleft⟩ := leftPlace_stopsAt hcompares
    obtain ⟨k, hk, hright⟩ := rightPlace_stopsAt hcompares
    refine ⟨index_cases hcompares, ?_, ?_, ?_, ?_⟩
    · rw [findLt, hi]
      exact staysInside_elementBefore hleft.le_hi
    · rw [findLe, hk]
      exact staysInside_elementBefore hright.le_hi
    · rw [findGt, hk]
      exact staysInside_elementAfter hright.le_hi
    · rw [findGe, hi]
      exact staysInside_elementAfter hleft.le_hi

/-- Versions in which 1 occurs twice, once as a truth value. -/
def twiceOne : Array Value :=
  #[.list [.int 0], .list [.bool true], .list [.int 1], .list [.int 1, .int 0]]

/-- Of the two versions that are the same as 1, `index` and `findGe` give the first one and `findLe` the last one. -/
theorem searches_right_twiceOne :
    ofValues.IsTotalOn (Involved twiceOne (.list [.int 1])) ∧ IsSorted ofValues twiceOne ∧
    Compares ofValues twiceOne (.list [.int 1]) ∧
    index ofValues twiceOne (.list [.int 1]) = .ok 1 ∧
    findLt ofValues twiceOne (.list [.int 1]) = .ok (.list [.int 0]) ∧
    findLe ofValues twiceOne (.list [.int 1]) = .ok (.list [.int 1]) ∧
    findGt ofValues twiceOne (.list [.int 1]) = .ok (.list [.int 1, .int 0]) ∧
    findGe ofValues twiceOne (.list [.int 1]) = .ok (.list [.bool true]) := by
  have htotal : ofValues.IsTotalOn (Involved twiceOne (.list [.int 1])) := by
    refine (isTotalOn_shape (.list .number)).mono fun v hv => ?_
    simp only [Involved, twiceOne, List.mem_toArray, List.mem_cons, List.not_mem_nil, or_false] at hv
    rcases hv with (rfl | rfl | rfl | rfl) | rfl <;> simp [Shape.Fits, Value.number?]
  have hsorted : IsSorted ofValues twiceOne := by
    unfold IsSorted
    decide
  have hcompares := compares_of_isTotalOn htotal
  obtain ⟨⟨hindex, hlt, hle, hgt, hge⟩, -⟩ :=
    (searches_right ofValues twiceOne (.list [.int 1])).imp (fun h => h htotal hsorted) (fun h => h hcompares)
  refine ⟨htotal, hsorted, hcompares, ?_, ?_, ?_, ?_, ?_⟩
  · refine (hindex.eq_ok_iff 1).mpr ⟨_, rfl, rfl, fun j w hj hw => ?_⟩
    interval_cases j
    cases hw
    decide
  · refine (hlt.eq_ok_iff _).mpr ⟨0, rfl, by decide, fun j w hj hw => ?_⟩
    have hsize : j < 4 := (Array.getElem?_eq_some_iff.mp hw).1
    interval_cases j <;> cases hw <;> decide
  · refine (hle.eq_ok_iff _).mpr ⟨2, rfl, by decide, fun j w hj hw => ?_⟩
    have hsize : j < 4 := (Array.getElem?_eq_some_iff.mp hw).1
    interval_cases j
    cases hw
    decide
  · refine (hgt.eq_ok_iff _).mpr ⟨3, rfl, by decide, fun j w hj hw => ?_⟩
    interval_cases j <;> cases hw <;> decide
  · refine (hge.eq_ok_iff _).mpr ⟨1, rfl, by decide, fun j w hj hw => ?_⟩
    interval_cases j
    cases hw
    decide

end GirDoc.VersionList
