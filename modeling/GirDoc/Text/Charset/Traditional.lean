import GirDoc.Text.Charset.Basic
import GirDoc.Text.Grid.National
import GirDoc.Text.Grid.Traditional

/-!
# Traditional Chinese encodings

Two bytes stand for a cell of Big5, which code pages and the supplement of Hong Kong extend. The national
standard has planes of its own.
-/

namespace GirDoc.Text

namespace Grid

/-- The number of a cell of Big5. -/
def big5Cell? (a b : Nat) : Option Nat :=
  if 0x81 ≤ a && a ≤ 0xFE then
    if 0x40 ≤ b && b ≤ 0x7E then some ((a - 0x81) * 157 + (b - 0x40))
    else if 0xA1 ≤ b && b ≤ 0xFE then some ((a - 0x81) * 157 + (b - 0xA1) + 63)
    else none
  else none

/-- How many cells Big5 has. -/
def big5Size : Nat := 19782

/-- Big5. -/
def big5 : Grid := ofRuns big5Size Run.big5

/-- Big5 with all its signs. -/
def fullBig5 : Grid := big5.add Run.big5Signs

/-- What code page 950 has for itself. -/
def cp950 : Grid := ofRuns big5Size Run.cp950

/-- What the supplement of Hong Kong adds. -/
def hongKong : Grid := ofRuns big5Size Run.hongKong

/-- What the supplement of Hong Kong adds in its later version. -/
def laterHongKong : Grid := hongKong.add Run.hongKongLater

/-- The first plane of CNS 11643. -/
def cnsFirst : Grid := ((empty square).copy big5 Run.cnsFirst).add Run.cnsFirstSigns

/-- The second plane of CNS 11643. -/
def cnsSecond : Grid := (empty square).copy big5 Run.cnsSecond

end Grid

namespace Charset

open Grid

/-- An encoding in which two bytes stand for what `pair?` says, and bytes of ASCII for themselves. -/
def ofPairs (pair? : Nat → Nat → Option (List Char)) : Charset :=
  ofTakes fun
    | [] => none
    | a :: rest =>
      if a < 0x80 then one 1 (ascii? a.toNat)
      else match rest with
        | [] => none
        | b :: _ => (pair? a.toNat b.toNat).map (·, 2)

/-- The character of two bytes in a grid of the size of Big5. -/
def big5Pair? (g : Grid) (a b : Nat) : Option Char := (big5Cell? a b).bind g.at?

/-- Big5, with or without the signs that not every reader knows. -/
def big5 (hasSigns : Bool) : Charset :=
  ofPairs fun a b => (big5Pair? (if hasSigns then fullBig5 else Grid.big5) a b).map ([·])

/-- Whether two bytes are in the rows that extensions of Big5 fill in their own ways. -/
def isInExtension (a b : Nat) : Bool := (a = 0xC6 && 0xA1 ≤ b) || a = 0xC7 || a = 0xC8

/-- Code page 950. -/
def cp950 : Charset :=
  ofPairs fun a b => (big5Pair? Grid.cp950 a b <|> big5Pair? fullBig5 a b).map ([·])

/-- The character for private use of code page 950. -/
def cp950Private? (a b : Nat) : Option Char := do
  let n ← big5Cell? a b
  if 0xFA ≤ a then some (Char.ofNat (0xE000 + (n - 0x79 * 157)))
  else if 0x8E ≤ a && a ≤ 0xA0 then some (Char.ofNat (0xE311 + (n - 0x0D * 157)))
  else if a ≤ 0x8D then some (Char.ofNat (0xEEB8 + n))
  else if isInExtension a b then some (Char.ofNat (0xF6B1 + (n - 0x45 * 157 - 63)))
  else none

/-- The pictures of control characters in code page 950. -/
def controlPicture? (a b : Nat) : Option Char :=
  if a = 0xA3 && 0xC0 ≤ b && b ≤ 0xE0 then
    some (if b = 0xE0 then '␡' else Char.ofNat (0x2340 + b))
  else none

/-- Code page 950 with cells for private use. -/
def privateCp950 : Charset :=
  ofPairs fun a b =>
    let usual := if isInExtension a b then none else big5Pair? fullBig5 a b
    (big5Pair? Grid.cp950 a b <|> usual <|> controlPicture? a b <|> cp950Private? a b).map ([·])

/-- The letters with two marks of the supplement of Hong Kong. -/
def markedLetters : List ((Nat × Nat) × String) :=
  [((0x88, 0x62), "\u00ca\u0304"), ((0x88, 0x64), "\u00ca\u030c"), ((0x88, 0xA3), "\u00ea\u0304"),
    ((0x88, 0xA5), "\u00ea\u030c")]

/-- Big5 with the supplement of Hong Kong, in its later or earlier version; only the earlier one has all
signs. -/
def big5HongKong (isLater : Bool) : Charset :=
  ofPairs fun a b =>
    let usual := if isInExtension a b then none
      else big5Pair? (if isLater then Grid.big5 else fullBig5) a b
    match usual <|> big5Pair? (if isLater then laterHongKong else hongKong) a b with
    | some c => some [c]
    | none => (markedLetters.lookup (a, b)).map String.toList

/-- The plane of CNS 11643 of a number. -/
def cnsPlane? (n : Nat) : Option Grid :=
  if n = 1 then some cnsFirst else if n = 2 then some cnsSecond else none

/-- EUC-TW: the first plane by upper bytes; after 0x8E a byte gives the plane. -/
def eucTw : Charset :=
  ofTakes fun
    | [] => none
    | a :: rest =>
      if a < 0x80 then one 1 (ascii? a.toNat)
      else if a = 0x8E then match rest with
        | p :: b :: c :: _ => one 4 do
          (← cnsPlane? (p.toNat - 0xA0)).inUpperSquare? b.toNat c.toNat
        | _ => none
      else match rest with
        | [] => none
        | b :: _ => one 2 (cnsFirst.inUpperSquare? a.toNat b.toNat)

end Charset

end GirDoc.Text
