/-!
# Blanks and words

The white space of running text: the characters that separate words and that trimming removes.
Words are the maximal runs of other characters.
-/

namespace GirDoc.Text

/-- The white space characters: ASCII controls that move the print position, the four information
separators, the space, and the Unicode spaces and line separators. -/
def isBlank (c : Char) : Bool :=
  let n := c.toNat
  (0x09 ≤ n && n ≤ 0x0D) || (0x1C ≤ n && n ≤ 0x20) || n == 0x85 || n == 0xA0 || n == 0x1680
    || (0x2000 ≤ n && n ≤ 0x200A) || n == 0x2028 || n == 0x2029 || n == 0x202F || n == 0x205F
    || n == 0x3000

/-- Core's white space is white space here too. -/
theorem isBlank_of_isWhitespace {c : Char} (h : c.isWhitespace = true) : isBlank c = true := by
  simp only [Char.isWhitespace, Bool.or_eq_true, decide_eq_true_eq] at h
  rcases h with ((h | h) | h) | h <;> subst h <;> decide

/-! ## Words -/

/-- Reads words from the left; `word` holds the characters of the word begun, last one first. -/
def wordsFrom (word : List Char) : List Char → List (List Char)
  | [] => if word.isEmpty then [] else [word.reverse]
  | c :: rest =>
    if isBlank c then
      if word.isEmpty then wordsFrom [] rest else word.reverse :: wordsFrom [] rest
    else wordsFrom (c :: word) rest

/-- The words of a text, in order. -/
def words (s : String) : List String :=
  (wordsFrom [] s.toList).map String.ofList

/-! ## Trimming -/

/-- Drops characters of a class from the end. -/
def dropEndWhile (p : Char → Bool) (cs : List Char) : List Char :=
  (cs.reverse.dropWhile p).reverse

/-- Removes the characters of a class from the end of a text. -/
def trimEndOf (p : Char → Bool) (s : String) : String :=
  String.ofList (dropEndWhile p s.toList)

/-- Removes the characters of a class from the start of a text. -/
def trimStartOf (p : Char → Bool) (s : String) : String :=
  String.ofList (s.toList.dropWhile p)

/-- Removes the characters of a class from both ends of a text. -/
def trimOf (p : Char → Bool) (s : String) : String :=
  String.ofList (dropEndWhile p (s.toList.dropWhile p))

/-- Removes white space from the end of a text. -/
def trimEnd (s : String) : String := trimEndOf isBlank s

/-- Removes white space from both ends of a text. -/
def trim (s : String) : String := trimOf isBlank s

end GirDoc.Text
