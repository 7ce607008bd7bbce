import GirDoc.Text.Charset.Basic
import GirDoc.Text.Grid.Chinese

/-!
# Simplified Chinese encodings

Two bytes stand for a cell of GB 2312 or of GBK, which has more; GB 18030 has four bytes for all other
characters.
-/

namespace GirDoc.Text

namespace Grid

/-- GB 2312. -/
def gb2312 : Grid := ofRuns square Run.gb2312

/-- The number of a cell of GBK. -/
def gbkCell? (a b : Nat) : Option Nat :=
  if 0x81 ≤ a && a ≤ 0xFE && 0x40 ≤ b && b ≤ 0xFE && b ≠ 0x7F then
    some ((a - 0x81) * 190 + (if b < 0x7F then b - 0x40 else b - 0x41))
  else none

/-- Which characters of two bytes of sixteen bits a grid has. -/
def known (g : Grid) : Array Bool :=
  g.cells.foldl (fun known c => known.setIfInBounds c.toNat true) (Array.replicate 0x10000 false)

/-- The rows of GB 2312 as runs of GBK. -/
def gb2312Rows : List (Nat × Nat × Nat) :=
  (List.range 94).map fun row => ((row + 0x20) * 190 + 96, row * 94, 94)

/-- The runs of cells of GBK for the ideographs that GB 2312 lacks: whole rows, then parts of rows. -/
def ideographRuns : List (Nat × Nat) :=
  (List.range 32).map (fun row => (row * 190, 190)) ++ (List.range 85).map fun row => ((row + 41) * 190, 96)

/-- Deals characters out to runs of cells. -/
def deal (g : Grid) : List (Nat × Nat) → List Char → Grid
  | [], _ => g
  | (first, count) :: runs, cs => deal ⟨fill g.cells first (cs.take count)⟩ runs (cs.drop count)

/-- The ideographs that GB 2312 lacks, in order. -/
def otherIdeographs : List Char :=
  let known := gb2312.known
  ((List.range 20902).filter fun n => known[0x4E00 + n]? = some false).map fun n => Char.ofNat (0x4E00 + n)

/-- GBK. -/
def gbk : Grid :=
  ((((empty 23940).copy gb2312 gb2312Rows).deal ideographRuns otherIdeographs).add Run.gbkSigns)

/-- The cells of GB 18030 for private use, by runs. -/
def privateRuns : List (Nat × Nat) :=
  (List.range 6).map (fun row => ((row + 41) * 190 + 96, 94))
    ++ (List.range 7).map (fun row => ((row + 119) * 190 + 96, 94))
    ++ (List.range 7).map (fun row => ((row + 32) * 190, 96))

/-- The characters of two bytes of GB 18030. -/
def gb18030 : Grid :=
  (gbk.deal privateRuns ((List.range 1894).map fun n => Char.ofNat (0xE000 + n))).add Run.gb18030Signs

end Grid

namespace Charset

open Grid

/-- EUC-CN: GB 2312 by upper bytes. -/
def eucCn : Charset :=
  ofTakes fun
    | [] => none
    | a :: rest =>
      if a < 0x80 then one 1 (ascii? a.toNat)
      else match rest with
        | [] => none
        | b :: _ => one 2 (gb2312.inUpperSquare? a.toNat b.toNat)

/-- The character of two bytes of GBK. -/
def gbkPair? (a b : Nat) : Option Char := (gbkCell? a b).bind gbk.at?

/-- GBK. -/
def gbk : Charset :=
  ofTakes fun
    | [] => none
    | a :: rest =>
      if a < 0x80 then one 1 (ascii? a.toNat)
      else match rest with
        | [] => none
        | b :: _ => one 2 (gbkPair? a.toNat b.toNat)

/-- The character for private use of code page 936. -/
def cp936Private? (a b : Nat) : Option Char := do
  let n ← gbkCell? a b
  if (0xA1 ≤ a && a ≤ 0xA2 && b < 0xA1) || (0xAA ≤ a && a ≤ 0xAF && 0xA1 ≤ b) || (0xF8 ≤ a && 0xA1 ≤ b) then
    Grid.gb18030.at? n
  else none

/-- Code page 936: GBK with the sign of the euro, and cells for private use. -/
def cp936 : Charset :=
  ofTakes fun
    | [] => none
    | a :: rest =>
      if a < 0x80 then one 1 (ascii? a.toNat)
      else if a = 0x80 then some (['€'], 1)
      else match rest with
        | [] => none
        | b :: _ => one 2 (gbkPair? a.toNat b.toNat <|> cp936Private? a.toNat b.toNat)

/-! ## Four bytes -/

/-- The characters of sixteen bits that two bytes of GB 18030 do not stand for, in order. -/
def fourByteChars : Array Char :=
  let known := Grid.gb18030.known
  ((List.range 0xFF80).filter fun n =>
    known[0x80 + n]? = some false && !(0xD800 ≤ 0x80 + n && 0x80 + n ≤ 0xDFFF)).toArray.map fun n =>
      Char.ofNat (0x80 + n)

/-- The character of four bytes of GB 18030. -/
def fourBytes? (a b c d : Nat) : Option Char :=
  if 0x81 ≤ a && a ≤ 0xFE && 0x30 ≤ b && b ≤ 0x39 && 0x81 ≤ c && c ≤ 0xFE && 0x30 ≤ d && d ≤ 0x39 then
    let n := ((a - 0x81) * 10 + (b - 0x30)) * 1260 + (c - 0x81) * 10 + (d - 0x30)
    if a < 0x85 then fourByteChars[n]?
    else if 0x90 ≤ a then Utf8.charOf? 0x10000 (n - 189000 + 0x10000)
    else none
  else none

/-- GB 18030. -/
def gb18030 : Charset :=
  ofTakes fun
    | [] => none
    | a :: rest =>
      if a < 0x80 then one 1 (ascii? a.toNat)
      else match rest with
        | [] => none
        | b :: rest =>
          if 0x30 ≤ b && b ≤ 0x39 then match rest with
            | c :: d :: _ => one 4 (fourBytes? a.toNat b.toNat c.toNat d.toNat)
            | _ => none
          else one 2 ((gbkCell? a.toNat b.toNat).bind Grid.gb18030.at?)

/-! ## Text with marks -/

/-- Where text of HZ is. -/
inductive Marked where
  | plain
  | inCells
  deriving DecidableEq

/-- The next bytes of HZ. Braces after a tilde mark where cells begin and end; outside of them two tildes
stand for one, and a tilde at the end of a line for nothing. `upper` is what an upper byte stands for. -/
def hzStep (upper : Nat → Option Char) : Step Marked := fun state bytes =>
  match bytes with
  | [] => none
  | 0x7E :: rest => match state, rest with
    | .plain, 0x7E :: _ => some { chars := ['~'], size := 2, next := .plain }
    | .plain, 0x7B :: _ => some { chars := [], size := 2, next := .inCells }
    | .plain, 0x0A :: _ => some { chars := [], size := 2, next := .plain }
    | .inCells, 0x7D :: _ => some { chars := [], size := 2, next := .plain }
    | _, _ => none
  | a :: rest => match state, rest with
    | .plain, _ =>
      ((ascii? a.toNat).or (upper a.toNat)).map fun c => { chars := [c], size := 1, next := .plain }
    | .inCells, b :: _ =>
      (gb2312.inSquare? a.toNat b.toNat).map fun c => { chars := [c], size := 2, next := .inCells }
    | .inCells, [] => none

/-- The Chinese edition of ASCII, with the sign of the yuan and an overline. -/
def chineseAscii : Charset :=
  ofBytes fun n => if n = 0x24 then some '¥' else if n = 0x7E then some '‾' else ascii? n

/-- HZ. -/
def hz (upper : Nat → Option Char) : Charset := ofStep .plain (hzStep upper)

end Charset

end GirDoc.Text
