import Mathlib.Data.List.TakeWhile
import GirDoc.Text.Blank

/-!
# Words and trimmed texts

Reading words loses the blanks and nothing else: put together, the words of a text are the text without its blanks
(`flatten_wordsFrom`). Trimming takes a text apart into what is trimmed on the left, what is left, and what is trimmed
on the right (`exists_trimOf`).
-/

namespace GirDoc.Text

variable {p : Char → Bool} {word cs : List Char}

/-- A text without its blanks. -/
def unblanked (cs : List Char) : List Char := cs.filter fun c => !isBlank c

@[simp] theorem unblanked_append (cs ds : List Char) : unblanked (cs ++ ds) = unblanked cs ++ unblanked ds :=
  List.filter_append ..

theorem unblanked_eq_self (h : ∀ c ∈ cs, isBlank c = false) : unblanked cs = cs :=
  List.filter_eq_self.mpr fun c hc => by simp [h c hc]

theorem count_unblanked {c : Char} (h : isBlank c = false) (cs : List Char) : (unblanked cs).count c = cs.count c :=
  List.count_filter (by simp [h])

/-! ## Words -/

theorem flatten_wordsFrom (word cs : List Char) : (wordsFrom word cs).flatten = word.reverse ++ unblanked cs := by
  induction cs generalizing word with
  | nil => cases word <;> simp [wordsFrom, unblanked]
  | cons c rest ih =>
    by_cases hc : isBlank c
    · cases word <;> simp [wordsFrom, hc, ih, unblanked]
    · simp [wordsFrom, hc, ih, unblanked]

/-- At a blank, words can be read on both sides of it. -/
theorem wordsFrom_append_blank {b : Char} (hb : isBlank b = true) (word cs ds : List Char) :
    wordsFrom word (cs ++ b :: ds) = wordsFrom word cs ++ wordsFrom [] ds := by
  induction cs generalizing word with
  | nil => cases word <;> simp [wordsFrom, hb]
  | cons c rest ih =>
    by_cases hc : isBlank c
    · cases word <;> simp [wordsFrom, hc, ih]
    · simp [wordsFrom, hc, ih]

/-- Characters that are no blanks continue the word begun. -/
theorem wordsFrom_append_word {ds : List Char} (h : ∀ c ∈ ds, isBlank c = false) (word cs : List Char) :
    wordsFrom word (ds ++ cs) = wordsFrom (ds.reverse ++ word) cs := by
  induction ds generalizing word with
  | nil => rfl
  | cons c rest ih =>
    rw [List.forall_mem_cons] at h
    simp [wordsFrom, h.1, ih h.2]

theorem wordsFrom_word (h : ∀ c ∈ cs, isBlank c = false) (hne : cs ≠ []) : wordsFrom [] cs = [cs] := by
  have hread := wordsFrom_append_word h [] []
  rw [List.append_nil, List.append_nil] at hread
  simp [hread, wordsFrom, hne]

/-- A word has characters, and none of them is a blank. -/
theorem of_mem_wordsFrom (hword : ∀ c ∈ word, isBlank c = false) {w : List Char} (h : w ∈ wordsFrom word cs) :
    w ≠ [] ∧ ∀ c ∈ w, isBlank c = false := by
  induction cs generalizing word with
  | nil =>
    cases word with
    | nil => simp [wordsFrom] at h
    | cons c rest =>
      simp only [wordsFrom, List.isEmpty_cons, Bool.false_eq_true, if_false, List.mem_singleton] at h
      subst h
      exact ⟨by simp, fun c hc => hword c (List.mem_reverse.mp hc)⟩
  | cons c rest ih =>
    unfold wordsFrom at h
    by_cases hc : isBlank c
    · rw [if_pos hc] at h
      cases word with
      | nil =>
        have hrest : w ∈ wordsFrom [] rest := by simpa using h
        exact ih (by simp) hrest
      | cons d word =>
        simp only [List.isEmpty_cons, Bool.false_eq_true, if_false, List.mem_cons] at h
        rcases h with rfl | h
        · exact ⟨by simp, fun c hc => hword c (List.mem_reverse.mp hc)⟩
        · exact ih (by simp) h
    · rw [if_neg hc] at h
      exact ih (List.forall_mem_cons.mpr ⟨by simpa using hc, hword⟩) h

/-- There are no words exactly if all is blank. -/
theorem wordsFrom_eq_nil_iff (cs : List Char) : wordsFrom [] cs = [] ↔ unblanked cs = [] := by
  have hflatten := flatten_wordsFrom [] cs
  rw [List.reverse_nil, List.nil_append] at hflatten
  rw [← hflatten, List.flatten_eq_nil_iff]
  constructor
  · intro h
    simp [h]
  · intro h
    by_contra hne
    obtain ⟨w, hw⟩ := List.exists_mem_of_ne_nil _ hne
    exact (of_mem_wordsFrom (by simp) hw).1 (h w hw)

/-! ## Trimming -/

/-- A text is what is trimmed on the left, what is left of it, and what is trimmed on the right. -/
theorem exists_trimOf (p : Char → Bool) (s : String) :
    ∃ left right, s.toList = left ++ (trimOf p s).toList ++ right ∧ (∀ c ∈ left, p c) ∧ ∀ c ∈ right, p c := by
  refine ⟨s.toList.takeWhile p, ((s.toList.dropWhile p).reverse.takeWhile p).reverse, ?_, ?_, ?_⟩
  · rw [trimOf, String.toList_ofList, dropEndWhile, List.append_assoc, ← List.reverse_append,
      List.takeWhile_append_dropWhile, List.reverse_reverse, List.takeWhile_append_dropWhile]
  · intro c hc
    exact List.mem_takeWhile_imp hc
  · intro c hc
    exact List.mem_takeWhile_imp (List.mem_reverse.mp hc)

theorem dropWhile_eq_self (h : ∀ c ∈ cs, p c = false) : cs.dropWhile p = cs := by
  cases cs with
  | nil => rfl
  | cons c cs => rw [List.dropWhile_cons_of_neg (by simp [h c List.mem_cons_self])]

/-- Trimming leaves what has nothing to be trimmed. -/
theorem toList_trimOf {s : String} {left right : List Char} (hs : s.toList = left ++ cs ++ right)
    (hleft : ∀ c ∈ left, p c) (hright : ∀ c ∈ right, p c) (h : ∀ c ∈ cs, p c = false) :
    (trimOf p s).toList = cs := by
  rw [trimOf, String.toList_ofList, hs, List.append_assoc, List.dropWhile_append_of_pos hleft, List.dropWhile_append,
    dropWhile_eq_self h, dropEndWhile]
  split
  · rename_i hnil
    rw [List.isEmpty_iff.mp hnil, List.dropWhile_eq_nil_iff.mpr hright]
    rfl
  · rw [List.reverse_append, List.dropWhile_append_of_pos fun c hc => hright c (List.mem_reverse.mp hc),
      dropWhile_eq_self fun c hc => h c (List.mem_reverse.mp hc), List.reverse_reverse]

theorem trimEndOf_eq {p : Char → Bool} {s name : String} {marks : List Char} (hs : s.toList = name.toList ++ marks)
    (hmarks : ∀ c ∈ marks, p c) (hname : ∀ c ∈ name.toList, p c = false) : trimEndOf p s = name := by
  rw [trimEndOf, dropEndWhile, hs, List.reverse_append,
    List.dropWhile_append_of_pos fun c hc => hmarks c (List.mem_reverse.mp hc),
    dropWhile_eq_self fun c hc => hname c (List.mem_reverse.mp hc), List.reverse_reverse, String.ofList_toList]

/-! ## Ends -/

theorem endsWith_iff (s part : String) : s.endsWith part = true ↔ part.toList <:+ s.toList := by
  rw [String.endsWith, String.Slice.endsWith_string_iff, String.copy_toSlice]

end GirDoc.Text
