import GirDoc.Text.Charset.Basic
import GirDoc.Text.Grid.Korean

/-!
# Korean encodings

Two bytes stand for a cell of KS X 1001, or for a syllable that it has no cell for. Syllables are numbered by
their first, middle and last letters.
-/

namespace GirDoc.Text

namespace Grid

/-- KS X 1001. -/
def ks1001 : Grid := ofRuns square Run.ks1001

end Grid

namespace Charset

open Grid

/-! ## Syllables -/

/-- The letters that begin syllables, by number. -/
def firstLetters : List Char := "ㄱㄲㄴㄷㄸㄹㅁㅂㅃㅅㅆㅇㅈㅉㅊㅋㅌㅍㅎ".toList

/-- The letters that end syllables, by number less one. -/
def lastLetters : List Char := "ㄱㄲㄳㄴㄵㄶㄷㄹㄺㄻㄼㄽㄾㄿㅀㅁㅂㅄㅅㅆㅇㅈㅊㅋㅌㅍㅎ".toList

/-- The middle letter of a number. -/
def middleLetter (n : Nat) : Char := Char.ofNat (0x314F + n)

/-- The syllable of three letters by their numbers. -/
def syllable (first middle last : Nat) : Char := Char.ofNat (0xAC00 + first * 588 + middle * 28 + last)

/-- The syllables that have no cell in KS X 1001, in order. -/
def otherSyllables : Array Char :=
  let known := (ks1001.chars.filter fun c => 0xAC00 ≤ c.toNat).foldl
    (fun (known : Array Bool) c => known.setIfInBounds (c.toNat - 0xAC00) true) (Array.replicate 11172 false)
  ((List.range 11172).filter fun n => known[n]? = some false).toArray.map fun n => Char.ofNat (0xAC00 + n)

/-! ## Cells by upper bytes -/

/-- The character in a cell of KS X 1001. A later edition has the sign of the post. -/
def ksCell? (hasPost : Bool) (a b : Nat) : Option Char :=
  if hasPost && a = 0x22 && b = 0x68 then some '㉾' else ks1001.inSquare? a b

/-- The syllable that is spelled by its letters in eight bytes, each letter after the mark 0xA4. -/
def spelled? : List UInt8 → Option Char
  | 0xA4 :: 0xD4 :: 0xA4 :: a :: 0xA4 :: b :: 0xA4 :: c :: _ => do
    let letter (n : UInt8) : Char := Char.ofNat (0x3131 + (n.toNat - 0xA1))
    let first ← if 0xA1 ≤ a && a ≤ 0xBE then firstLetters.idxOf? (letter a) else none
    let middle ← if 0xBF ≤ b && b ≤ 0xD3 then some (b.toNat - 0xBF) else none
    let last ← if c = 0xD4 then some 0
      else if 0xA1 ≤ c && c ≤ 0xBE then (lastLetters.idxOf? (letter c)).map (· + 1) else none
    some (syllable first middle last)
  | _ => none

/-- EUC-KR. `spells` is whether syllables are spelled by their letters too; if not, the edition is the later
one. -/
def eucKr (spells : Bool) : Charset :=
  ofTakes fun bytes => match bytes with
    | [] => none
    | a :: rest =>
      if a < 0x80 then one 1 (ascii? a.toNat)
      else match rest with
        | [] => none
        | b :: _ =>
          if spells && a = 0xA4 && b = 0xD4 then one 8 (spelled? bytes)
          else if a < 0x80 || b < 0x80 then none
          else one 2 (ksCell? (!spells) (a.toNat - 0x80) (b.toNat - 0x80))

/-- The place of a second byte among those of the syllables that KS X 1001 has no cell for. -/
def otherPlace? (b : Nat) : Option Nat :=
  if 0x41 ≤ b && b ≤ 0x5A then some (b - 0x41)
  else if 0x61 ≤ b && b ≤ 0x7A then some (b - 0x47)
  else if 0x81 ≤ b && b ≤ 0xFE then some (b - 0x4D)
  else none

/-- The syllable of two bytes that KS X 1001 has no cell for. Later first bytes have fewer second bytes. -/
def otherSyllable? (a b : Nat) : Option Char := do
  let place ← otherPlace? b
  if 0x81 ≤ a && a ≤ 0xA0 then otherSyllables[178 * (a - 0x81) + place]?
  else if 0xA1 ≤ a && a ≤ 0xC6 && place < 84 then otherSyllables[5696 + 84 * (a - 0xA1) + place]?
  else none

/-- The character for private use of code page 949. -/
def cp949Private? (a b : Nat) : Option Char :=
  if 0xA1 ≤ b && b ≤ 0xFE then
    if a = 0xC9 then some (Char.ofNat (0xE000 + (b - 0xA1)))
    else if a = 0xFE then some (Char.ofNat (0xE05E + (b - 0xA1)))
    else none
  else none

/-- Code page 949, with or without cells for private use. -/
def cp949 (hasPrivate : Bool) : Charset :=
  ofTakes fun
    | [] => none
    | a :: rest =>
      if a < 0x80 then one 1 (ascii? a.toNat)
      else match rest with
        | [] => none
        | b :: _ =>
          let (a, b) := (a.toNat, b.toNat)
          one 2 (ks1001.inUpperSquare? a b <|> otherSyllable? a b
            <|> (if hasPrivate then cp949Private? a b else none))

/-! ## Bytes that spell syllables -/

/-- A letter of a syllable in five bits: none, or a number. -/
inductive Letter where
  | filler
  | number (n : Nat)

/-- The first letter of five bits. -/
def firstOf? (n : Nat) : Option Letter :=
  if n = 1 then some .filler else if 2 ≤ n && n ≤ 20 then some (.number (n - 2)) else none

/-- The middle letter of five bits. -/
def middleOf? (n : Nat) : Option Letter :=
  if n = 2 then some .filler
  else if 3 ≤ n && n ≤ 7 then some (.number (n - 3))
  else if 10 ≤ n && n ≤ 15 then some (.number (n - 5))
  else if 18 ≤ n && n ≤ 23 then some (.number (n - 7))
  else if 26 ≤ n && n ≤ 29 then some (.number (n - 9))
  else none

/-- The last letter of five bits. -/
def lastOf? (n : Nat) : Option Letter :=
  if n = 1 then some .filler
  else if 2 ≤ n && n ≤ 17 then some (.number (n - 1))
  else if 19 ≤ n && n ≤ 29 then some (.number (n - 2))
  else none

/-- The character of three letters: a syllable, or one letter that stands alone. `isStrict` is whether a
letter that can begin syllables is never written as one that ends them. -/
def combined? (isStrict : Bool) : Letter → Letter → Letter → Option Char
  | .filler, .filler, .filler => if isStrict then none else some '　'
  | .number n, .filler, .filler => firstLetters[n]?
  | .filler, .number n, .filler => some (middleLetter n)
  | .filler, .filler, .number n => (lastLetters[n - 1]?).filter fun c => !isStrict || !firstLetters.contains c
  | .number first, .number middle, .filler => some (syllable first middle 0)
  | .number first, .number middle, .number last => some (syllable first middle last)
  | _, _, _ => none

/-- The cell of KS X 1001 of two bytes past those of syllables; the letters have none. -/
def pastSyllables? (hasPost : Bool) (a b : Nat) : Option Char := do
  let place ← if 0x31 ≤ b && b ≤ 0x7E then some (b - 0x31)
    else if 0x91 ≤ b && b ≤ 0xFE then some (b - 0x43) else none
  if a = 0xDA && 0xA1 ≤ b && b ≤ 0xD3 then none
  else
    let row ← if 0xD9 ≤ a && a ≤ 0xDE then some (2 * (a - 0xD9))
      else if 0xE0 ≤ a && a ≤ 0xF9 then some (2 * a - 0x197) else none
    ksCell? hasPost (row + place / 94 + 0x21) (place % 94 + 0x21)

/-- Johab, strictly with the later edition of KS X 1001. `backslash` is the character of that byte. -/
def johab (isStrict : Bool) (backslash : Char) : Charset :=
  ofTakes fun
    | [] => none
    | a :: rest =>
      if a < 0x80 then some ([if a = 0x5C then backslash else Char.ofNat a.toNat], 1)
      else match rest with
        | [] => none
        | b :: _ =>
          let (a, b) := (a.toNat, b.toNat)
          if a < 0xD8 then one 2 do
            let first ← firstOf? (a / 4 % 32)
            let middle ← middleOf? ((a * 8 + b / 32) % 32)
            combined? isStrict first middle (← lastOf? (b % 32))
          else one 2 (pastSyllables? isStrict a b)

end Charset

end GirDoc.Text
