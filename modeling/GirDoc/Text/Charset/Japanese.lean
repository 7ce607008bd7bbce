import GirDoc.Text.Charset.Basic
import GirDoc.Text.Grid.Japanese

/-!
# Japanese encodings

Two or three bytes stand for a cell of one of the Japanese coded sets. Encodings differ in how they number the
cells, in what they take for the characters of one byte, and in whether cells are left for private use.
-/

namespace GirDoc.Text

namespace Grid

/-- JIS X 0208. -/
def jis0208 : Grid := ofRuns square Run.jis0208

/-- JIS X 0212. -/
def jis0212 : Grid := ofRuns square Run.jis0212

/-- What the first plane of JIS X 0213 adds. -/
def jis0213First : Grid := ofRuns square Run.jis0213First

/-- The second plane of JIS X 0213. -/
def jis0213Second : Grid := ofRuns square Run.jis0213Second

/-- The cells of code page 932 that differ from those of JIS X 0208, 188 of them to a first byte. -/
def cp932 : Grid := ofRuns 11280 Run.cp932

end Grid

namespace Charset

open Grid

/-! ## Characters of one byte -/

/-- A character of the Roman half of JIS X 0201. -/
def roman? (n : Nat) : Option Char :=
  if n = 0x5C then some '¥' else if n = 0x7E then some '‾' else ascii? n

/-- A character of the half of JIS X 0201 with narrow syllables. -/
def narrow? (n : Nat) : Option Char :=
  if 0xA1 ≤ n && n ≤ 0xDF then some (Char.ofNat (0xFEC0 + n)) else none

/-- JIS X 0201: a byte is a character of the Roman set or a narrow syllable. -/
def romanNarrow : Charset := ofBytes fun n => roman? n <|> narrow? n

/-- A character for private use. -/
def private? (first n : Nat) : Option Char := some (Char.ofNat (first + n))

/-! ## The planes of JIS X 0213 -/

/-- The cells that the second edition added to the first plane. -/
def addedCells : List (Nat × Nat) :=
  [(0x2E, 0x21), (0x2F, 0x7E), (0x4F, 0x54), (0x4F, 0x7E), (0x74, 0x27), (0x7E, 0x7A), (0x7E, 0x7B),
    (0x7E, 0x7C), (0x7E, 0x7D), (0x7E, 0x7E)]

/-- The characters of a cell of the first plane, in the first or second edition. -/
def firstPlane? (second : Bool) (a b : Nat) : Option (List Char) :=
  if !second && addedCells.contains (a, b) then none
  else match jis0208.inSquare? a b <|> jis0213First.inSquare? a b with
    | some c => some [c]
    | none => do
      let chars ← Run.jis0213Pairs.lookup (← squareCell? a b)
      some chars.toList

/-- The character of a cell of the second plane, in the first or second edition. -/
def secondPlane? (second : Bool) (a b : Nat) : Option Char :=
  if !second && a = 0x7D && b = 0x3B then some '鬝' else jis0213Second.inSquare? a b

/-! ## Cells by upper bytes -/

/-- The set that a Japanese encoding takes for the cells of two upper bytes. -/
inductive UpperSet where
  /-- JIS X 0208. -/
  | plain
  /-- JIS X 0208, with cells for private use. -/
  | withPrivate
  /-- JIS X 0213 in its first or second edition. -/
  | extended (second : Bool)

/-- The characters of two upper bytes. -/
def upperPair? (set : UpperSet) (a b : Nat) : Option (List Char) :=
  match set with
  | .plain => (jis0208.inUpperSquare? a b).map ([·])
  | .withPrivate =>
    if 0xF5 ≤ a && a ≤ 0xFE && 0xA1 ≤ b && b ≤ 0xFE then
      (private? 0xE000 (94 * (a - 0xF5) + (b - 0xA1))).map ([·])
    else (jis0208.inUpperSquare? a b).map ([·])
  | .extended second => if 0x80 ≤ a && 0x80 ≤ b then firstPlane? second (a - 0x80) (b - 0x80) else none

/-- The character of two upper bytes after the mark of the further set. -/
def furtherPair? (set : UpperSet) (a b : Nat) : Option Char :=
  match set with
  | .plain => jis0212.inUpperSquare? a b
  | .withPrivate =>
    if 0xF5 ≤ a && a ≤ 0xFE && 0xA1 ≤ b && b ≤ 0xFE then private? 0xE3AC (94 * (a - 0xF5) + (b - 0xA1))
    else jis0212.inUpperSquare? a b
  | .extended second =>
    if 0x80 ≤ a && 0x80 ≤ b then
      secondPlane? second (a - 0x80) (b - 0x80) <|> jis0212.inSquare? (a - 0x80) (b - 0x80)
    else none

/-- EUC-JP: cells by upper bytes, narrow syllables after 0x8E, a further set after 0x8F. -/
def eucJp (set : UpperSet) : Charset :=
  ofTakes fun
    | [] => none
    | a :: rest =>
      if a < 0x80 then one 1 (ascii? a.toNat)
      else match rest with
        | [] => none
        | b :: rest =>
          if a = 0x8E then one 2 (narrow? b.toNat)
          else if a = 0x8F then match rest with
            | c :: _ => one 3 (furtherPair? set b.toNat c.toNat)
            | [] => none
          else (upperPair? set a.toNat b.toNat).map (·, 2)

/-! ## Shifted cells -/

/-- The place of a second byte among the 188 that a first byte can have. -/
def shiftedPlace? (b : Nat) : Option Nat :=
  if 0x40 ≤ b && b ≤ 0x7E then some (b - 0x40) else if 0x80 ≤ b && b ≤ 0xFC then some (b - 0x41) else none

/-- The place of a first byte. -/
def shiftedLead? (a : Nat) : Option Nat :=
  if 0x81 ≤ a && a ≤ 0x9F then some (a - 0x81) else if 0xE0 ≤ a && a ≤ 0xFC then some (a - 0xC1) else none

/-- The two numbers of a cell in shifted bytes; the first goes on past 0x7E. -/
def unshifted? (a b : Nat) : Option (Nat × Nat) := do
  let lead ← shiftedLead? a
  let place ← shiftedPlace? b
  some (2 * lead + place / 94 + 0x21, place % 94 + 0x21)

/-- The character for private use of two shifted bytes. -/
def shiftedPrivate? (a b : Nat) : Option Char := do
  let place ← shiftedPlace? b
  if 0xF0 ≤ a && a ≤ 0xF9 then private? 0xE000 (188 * (a - 0xF0) + place) else none

/-- The row of the second plane of JIS X 0213 that shifted bytes stand for, by the number that they give past
the rows of the first plane. -/
def shiftedRow (n : Nat) : Nat :=
  if 0x88 ≤ n then n - 0x1A else if 0x84 ≤ n || n = 0x80 then n - 0x58 else n - 0x5E

/-- What shifted bytes stand for. -/
structure ShiftedSet where
  /-- The characters of a byte that stands alone. -/
  single? : Nat → Option Char
  /-- The characters of two bytes. -/
  pair? : Nat → Nat → Option (List Char)

/-- An encoding with shifted bytes. A byte that may stand alone does. -/
def shifted (set : ShiftedSet) : Charset :=
  ofTakes fun
    | [] => none
    | a :: rest => match set.single? a.toNat, rest with
      | some c, _ => some ([c], 1)
      | none, b :: _ => (set.pair? a.toNat b.toNat).map (·, 2)
      | none, [] => none

/-- Shift JIS over ASCII. -/
def shiftJis : Charset :=
  shifted {
    single? := fun n => ascii? n <|> narrow? n
    pair? := fun a b => do
      let (row, column) ← unshifted? a b
      (jis0208.inSquare? row column).map ([·]) }

/-- Shift JIS over the Roman half of JIS X 0201, with cells for private use. -/
def romanShiftJis : Charset :=
  shifted {
    single? := fun n => roman? n <|> narrow? n
    pair? := fun a b => do
      let (row, column) ← unshifted? a b
      (jis0208.inSquare? row column <|> shiftedPrivate? a b).map ([·]) }

/-- Shift JIS with the planes of JIS X 0213. The wide backslash and tilde stand for the narrow ones, which the
Roman half lacks. -/
def shiftJis0213 (second : Bool) : Charset :=
  shifted {
    single? := fun n => roman? n <|> narrow? n
    pair? := fun a b => do
      let (row, column) ← unshifted? a b
      if row = 0x21 && column = 0x40 then some ['\\']
      else if row = 0x22 && column = 0x32 then some ['~']
      else if row ≤ 0x7E then firstPlane? second row column
      else (secondPlane? second (shiftedRow row) column).map ([·]) }

/-- The bytes that stand alone in code page 932 though nothing is assigned to them. -/
def cp932Single? (n : Nat) : Option Char :=
  if n = 0x80 then some (Char.ofNat n)
  else if n = 0xA0 then private? 0xF8F0 0
  else if 0xFD ≤ n && n ≤ 0xFF then private? 0xF8F1 (n - 0xFD)
  else none

/-- Code page 932. `lenient` is whether bytes that nothing is assigned to stand for something. -/
def cp932 (lenient : Bool) : Charset :=
  shifted {
    single? := fun n => ascii? n <|> narrow? n <|> (if lenient then cp932Single? n else none)
    pair? := fun a b => do
      let (row, column) ← unshifted? a b
      let lead ← shiftedLead? a
      let place ← shiftedPlace? b
      let own := Grid.cp932.at? (188 * lead + place)
      (own <|> jis0208.inSquare? row column <|> shiftedPrivate? a b).map ([·]) }

end Charset

end GirDoc.Text
