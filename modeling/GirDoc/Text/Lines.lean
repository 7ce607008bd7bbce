/-!
# Lines

A line ends with a newline, with a return, or with both. `unifyNewlines` leaves only newlines, and
`cutAfter` cuts behind the marks that end lines; no cut loses anything.
-/

namespace GirDoc.Text

/-- Ends every line with a newline, whether it was ended by one, by a return, or by both. -/
def unifyNewlines : List Char → List Char
  | [] => []
  | '\r' :: '\n' :: rest => '\n' :: unifyNewlines rest
  | '\r' :: rest => '\n' :: unifyNewlines rest
  | c :: rest => c :: unifyNewlines rest

/-- A list cut behind each item that ends a line; the last line may go without one. -/
def cutAfter {α : Type} (isEnd : α → Bool) : List α → List (List α)
  | [] => []
  | a :: rest =>
    if isEnd a then [a] :: cutAfter isEnd rest
    else match cutAfter isEnd rest with
      | [] => [[a]]
      | line :: lines => (a :: line) :: lines

/-- The lines of a text, with the newlines that end them. -/
def endedLines (s : String) : List String :=
  (cutAfter (· = '\n') s.toList).map String.ofList

/-- The lines together are the whole. -/
theorem flatten_cutAfter {α : Type} (isEnd : α → Bool) (l : List α) :
    (cutAfter isEnd l).flatten = l := by
  induction l with
  | nil => rfl
  | cons a rest ih =>
    rw [cutAfter]
    split
    · simp [ih]
    · split
      · rename_i h
        simp [h] at ih
        simp [← ih]
      · rename_i line lines h
        simp only [h, List.flatten_cons] at ih
        simp [ih]

end GirDoc.Text
