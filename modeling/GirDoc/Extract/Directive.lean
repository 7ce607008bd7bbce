/-!
# Macro definitions in bytes

A definition starts with a hash sign, blanks, the word `define` and blanks. Its body goes on to the
end of the logical line: a newline after an odd number of backslashes (blanks between and after them
do not count) belongs to the body. The first byte of the body is never looked at.
-/

namespace GirDoc.Extract

/-- The newline byte. -/
def newline : UInt8 := 10

/-- The backslash byte. -/
def backslash : UInt8 := 92

/-- The space and the horizontal tab. -/
def isSpaceOrTab (b : UInt8) : Bool := b == 32 || b == 9

/-- The bytes of the word `define`. -/
def defineWord : List UInt8 := [100, 101, 102, 105, 110, 101]

/-- The bytes of a text after a given beginning. -/
def after? : List UInt8 → List UInt8 → Option (List UInt8)
  | [], bs => some bs
  | _ :: _, [] => none
  | w :: ws, b :: bs => if w = b then after? ws bs else none

/-- What follows the opening of a definition, blanks after the word included in the opening. -/
def directiveBody? : List UInt8 → Option (List UInt8)
  | [] => none
  | b :: rest =>
    if b = 35 then
      (after? defineWord (rest.dropWhile isSpaceOrTab)).map (·.dropWhile isSpaceOrTab)
    else none

/-- A stretch of bytes cut into what an item keeps, what closes it, and what comes after it. -/
structure Cut where
  body : List UInt8
  closing : List UInt8
  rest : List UInt8

/-- Reads a body up to the newline that ends it; `joined` tells whether a newline met now would be
part of the body. -/
def logicalLine (joined : Bool) : List UInt8 → Cut
  | [] => ⟨[], [], []⟩
  | b :: rest =>
    if b = newline && !joined then ⟨[], [newline], rest⟩
    else
      let joined :=
        if b = backslash then !joined else if isSpaceOrTab b then joined else false
      let tail := logicalLine joined rest
      { tail with body := b :: tail.body }

/-- The body of a definition: its first byte, whatever it is, and the rest of the logical line. -/
def definitionBody : List UInt8 → Cut
  | [] => ⟨[], [], []⟩
  | b :: rest =>
    let tail := logicalLine false rest
    { tail with body := b :: tail.body }

/-! ## Nothing is lost -/

theorem logicalLine_append (joined : Bool) (bs : List UInt8) :
    (logicalLine joined bs).body ++ (logicalLine joined bs).closing
      ++ (logicalLine joined bs).rest = bs := by
  induction bs generalizing joined with
  | nil => rfl
  | cons b rest ih =>
    rw [logicalLine]
    split
    · rename_i h
      simp only [Bool.and_eq_true, decide_eq_true_eq] at h
      simp [h.1]
    · simp only [List.cons_append]
      rw [ih]

theorem definitionBody_append (bs : List UInt8) :
    (definitionBody bs).body ++ (definitionBody bs).closing ++ (definitionBody bs).rest = bs := by
  cases bs with
  | nil => rfl
  | cons b rest =>
    simp only [definitionBody, List.cons_append]
    rw [logicalLine_append]

theorem length_le_of_after? {ws bs rest : List UInt8} (h : after? ws bs = some rest) :
    rest.length ≤ bs.length := by
  induction ws generalizing bs with
  | nil => simp only [after?, Option.some.injEq] at h; simp [h]
  | cons w ws ih =>
    cases bs with
    | nil => simp [after?] at h
    | cons b bs =>
      rw [after?] at h
      split at h
      · have := ih h; simp only [List.length_cons]; omega
      · simp at h

theorem length_dropWhile_le (p : UInt8 → Bool) (bs : List UInt8) :
    (bs.dropWhile p).length ≤ bs.length := by
  induction bs with
  | nil => simp
  | cons b rest ih =>
    rw [List.dropWhile_cons]
    split
    · simp only [List.length_cons]; omega
    · simp

/-- The opening of a definition is not empty. -/
theorem length_lt_of_directiveBody? {bs rest : List UInt8} (h : directiveBody? bs = some rest) :
    rest.length < bs.length := by
  cases bs with
  | nil => simp [directiveBody?] at h
  | cons b tail =>
    rw [directiveBody?] at h
    split at h
    · obtain ⟨mid, hm, rfl⟩ := Option.map_eq_some_iff.1 h
      have h1 := length_le_of_after? hm
      have h2 := length_dropWhile_le isSpaceOrTab mid
      have h3 := length_dropWhile_le isSpaceOrTab tail
      simp only [List.length_cons]
      omega
    · simp at h

theorem length_rest_definitionBody (bs : List UInt8) :
    (definitionBody bs).rest.length ≤ bs.length := by
  have h := congrArg List.length (definitionBody_append bs)
  simp only [List.length_append] at h
  omega

end GirDoc.Extract
