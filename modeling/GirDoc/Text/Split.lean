/-!
# Cutting text at a character

Splitting at every occurrence of a separator, and cutting once at the first one.
-/

namespace GirDoc.Text

/-- Splits at every occurrence of `sep`; there is one part more than there are separators. -/
def splitChars {α : Type} [DecidableEq α] (sep : α) : List α → List (List α)
  | [] => [[]]
  | c :: rest =>
    match splitChars sep rest with
    | [] => [[]]
    | part :: parts => if c = sep then [] :: part :: parts else (c :: part) :: parts

/-- The parts of a text between the occurrences of `sep`. -/
def splitAll (sep : Char) (s : String) : List String :=
  (splitChars sep s.toList).map String.ofList

/-- Cuts at the first occurrence of `sep`, which belongs to neither side. -/
def cutChars (sep : Char) : List Char → Option (List Char × List Char)
  | [] => none
  | c :: rest =>
    if c = sep then some ([], rest)
    else (cutChars sep rest).map fun (before, after) => (c :: before, after)

/-- Cuts a text at the first occurrence of `sep`; `none` if it has none. -/
def cut (sep : Char) (s : String) : Option (String × String) :=
  (cutChars sep s.toList).map fun (before, after) => (String.ofList before, String.ofList after)

/-- What stands before the first `sep`, the whole text if it has none. -/
def before (sep : Char) (s : String) : String :=
  String.ofList (s.toList.takeWhile (· ≠ sep))

/-- Puts `new` in the place of every `old`. -/
def replaceChar (old new : Char) (s : String) : String :=
  String.ofList (s.toList.map fun c => if c = old then new else c)

/-- The number of occurrences of a character. -/
def countChar (c : Char) (s : String) : Nat :=
  s.toList.count c

/-- A cut loses nothing but the separator. -/
theorem eq_of_cutChars {sep : Char} {cs l r : List Char} (h : cutChars sep cs = some (l, r)) :
    cs = l ++ sep :: r := by
  induction cs generalizing l with
  | nil => simp [cutChars] at h
  | cons c rest ih =>
    rw [cutChars] at h
    split at h
    · rename_i hc
      simp only [Option.some.injEq, Prod.mk.injEq] at h
      obtain ⟨rfl, rfl⟩ := h
      simp [hc]
    · obtain ⟨⟨b, a⟩, hb, he⟩ := Option.map_eq_some_iff.1 h
      simp only [Prod.mk.injEq] at he
      obtain ⟨rfl, rfl⟩ := he
      simp [ih hb]

end GirDoc.Text
