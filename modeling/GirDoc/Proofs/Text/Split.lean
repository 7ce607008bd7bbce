import GirDoc.Text.Split

/-!
# Texts cut at a character

Splitting at a separator is undone by putting the parts together again with the separator between them
(`intercalate_splitChars`), and parts that do not hold it are found again (`splitChars_append_cons`).
-/

namespace GirDoc.Text

section

variable {α : Type} [DecidableEq α] {sep : α} {cs part : List α}

theorem splitChars_ne_nil (sep : α) (cs : List α) : splitChars sep cs ≠ [] := by
  cases cs with
  | nil => simp [splitChars]
  | cons c rest =>
    unfold splitChars
    split
    · simp
    · split <;> simp

/-- Splitting, one character at a time: the rest has a first part. -/
theorem exists_splitChars_cons (sep c : α) (rest : List α) :
    ∃ part parts, splitChars sep rest = part :: parts ∧
      splitChars sep (c :: rest) = if c = sep then [] :: part :: parts else (c :: part) :: parts := by
  obtain ⟨part, parts, h⟩ := List.exists_cons_of_ne_nil (splitChars_ne_nil sep rest)
  exact ⟨part, parts, h, by rw [splitChars, h]⟩

theorem splitChars_of_notMem (h : sep ∉ cs) : splitChars sep cs = [cs] := by
  induction cs with
  | nil => rfl
  | cons c rest ih =>
    rw [List.mem_cons, not_or] at h
    rw [splitChars, ih h.2]
    exact if_neg (Ne.symm h.1)

/-- A first part that does not hold the separator is found again. -/
theorem splitChars_append_cons (h : sep ∉ part) (rest : List α) :
    splitChars sep (part ++ sep :: rest) = part :: splitChars sep rest := by
  induction part with
  | nil =>
    obtain ⟨first, parts, hrest, hsplit⟩ := exists_splitChars_cons sep sep rest
    rw [List.nil_append, hsplit, if_pos rfl, hrest]
  | cons c part ih =>
    rw [List.mem_cons, not_or] at h
    rw [List.cons_append, splitChars, ih h.2]
    exact if_neg (Ne.symm h.1)

/-- Nothing is lost but the separators. -/
theorem intercalate_splitChars (sep : α) (cs : List α) : [sep].intercalate (splitChars sep cs) = cs := by
  induction cs with
  | nil => rfl
  | cons c rest ih =>
    obtain ⟨part, parts, hrest, hsplit⟩ := exists_splitChars_cons sep c rest
    rw [hrest] at ih
    rw [hsplit]
    split
    · next hc => rw [List.intercalate_cons_cons, ih, hc]; rfl
    · cases parts <;> simp_all [List.intercalate_cons_cons]

theorem splitChars_inj {ds : List α} : splitChars sep cs = splitChars sep ds ↔ cs = ds := by
  constructor
  · intro h
    rw [← intercalate_splitChars sep cs, h, intercalate_splitChars]
  · intro h
    rw [h]

/-- The characters of the parts are characters of the whole. -/
theorem mem_of_mem_splitChars {c : α} (hpart : part ∈ splitChars sep cs) (hc : c ∈ part) : c ∈ cs := by
  induction cs generalizing part with
  | nil =>
    rw [splitChars, List.mem_singleton] at hpart
    exact hpart ▸ hc
  | cons d rest ih =>
    obtain ⟨first, parts, hrest, hsplit⟩ := exists_splitChars_cons sep d rest
    rw [hrest] at ih
    rw [hsplit] at hpart
    split at hpart
    · rcases List.mem_cons.mp hpart with rfl | hpart
      · cases hc
      · exact List.mem_cons_of_mem d (ih hpart hc)
    · rcases List.mem_cons.mp hpart with rfl | hpart
      · rcases List.mem_cons.mp hc with rfl | hc
        · exact List.mem_cons_self
        · exact List.mem_cons_of_mem d (ih List.mem_cons_self hc)
      · exact List.mem_cons_of_mem d (ih (List.mem_cons_of_mem _ hpart) hc)

end

/-! ## Cutting once -/

theorem cutChars_eq_none {sep : Char} {cs : List Char} (h : sep ∉ cs) : cutChars sep cs = none := by
  induction cs with
  | nil => rfl
  | cons c cs ih =>
    rw [List.mem_cons, not_or] at h
    rw [cutChars, if_neg (Ne.symm h.1), ih h.2, Option.map_none]

theorem cutChars_append_cons {sep : Char} {front : List Char} (h : sep ∉ front) (back : List Char) :
    cutChars sep (front ++ sep :: back) = some (front, back) := by
  induction front with
  | nil => exact if_pos rfl
  | cons c front ih =>
    rw [List.mem_cons, not_or] at h
    rw [List.cons_append, cutChars, if_neg (Ne.symm h.1), ih h.2, Option.map_some]

theorem cut_eq_some {sep : Char} {s front back : String} (hs : s.toList = front.toList ++ sep :: back.toList)
    (hfront : sep ∉ front.toList) : cut sep s = some (front, back) := by
  rw [cut, hs, cutChars_append_cons hfront, Option.map_some]
  simp only [String.ofList_toList]

/-! ## Replacing a character -/

theorem notMem_replaceChar {c old new : Char} {s : String} (hc : c ≠ new) (h : c ∉ s.toList) :
    c ∉ (replaceChar old new s).toList := by
  rw [replaceChar, String.toList_ofList, List.mem_map]
  rintro ⟨d, hd, heq⟩
  split at heq
  · exact hc heq.symm
  · exact h (heq ▸ hd)

theorem replaceChar_append (old new : Char) (s t : String) :
    replaceChar old new (s ++ t) = replaceChar old new s ++ replaceChar old new t := by
  simp [replaceChar]

end GirDoc.Text
