/-!
# Grids of characters

A coded set of characters is a grid of numbered cells, most of which hold a character. It is written down in
runs of cells that follow each other. Characters that lie close together are told by their distances.
-/

namespace GirDoc.Text

/-- A coded set of characters. -/
structure Grid where
  cells : Array Char
  deriving Inhabited

namespace Grid

/-- What stands in a cell that holds no character. -/
def hole : Char := '�'

/-- Fills the cells from a number on. -/
def fill (cells : Array Char) (first : Nat) (chars : List Char) : Array Char :=
  (chars.foldl (fun (cells, n) c => (cells.setIfInBounds n c, n + 1)) (cells, first)).1

/-- The characters that a run spells; `before` is the number of the one before them. A sign from `#` to `[` stands for
the character at a distance from -20 to 36, and two signs of which the first is one from `]` to `z` for the one at a
distance from -300 on. A sign behind `!` tells how many characters follow in their order. Every other character stands
for itself. -/
def spelled (before : Nat) : List Char → List Char
  | [] => []
  | [c] => [Char.ofNat (near before c)]
  | c :: d :: rest =>
    if c = '!' then
      let count := d.toNat - 0x20
      (List.range count).map (fun i => Char.ofNat (before + 1 + i)) ++ spelled (before + count) rest
    else if ']' ≤ c && c ≤ 'z' then
      let n := before + (c.toNat - 0x5D) * 88 + (d.toNat - 0x23) - 300
      Char.ofNat n :: spelled n rest
    else
      let n := near before c
      Char.ofNat n :: spelled n (d :: rest)
where
  near (before : Nat) (c : Char) : Nat :=
    if '#' ≤ c && c ≤ '[' then before + c.toNat - 0x37 else c.toNat

/-- Fills the cells of runs. -/
def add (g : Grid) (runs : List (Nat × String)) : Grid :=
  ⟨runs.foldl (fun cells (first, chars) => fill cells first (spelled 0 chars.toList)) g.cells⟩

/-- A grid in which no cell holds a character. -/
def empty (size : Nat) : Grid := ⟨Array.replicate size hole⟩

/-- A grid of so many cells, given by runs. -/
def ofRuns (size : Nat) (runs : List (Nat × String)) : Grid := (empty size).add runs

/-- The character in a cell. -/
def at? (g : Grid) (n : Nat) : Option Char := (g.cells[n]?).filter (· ≠ hole)

/-- Fills cells with those of another grid: the first cell here, the first cell there, and how many. -/
def copy (g other : Grid) (shared : List (Nat × Nat × Nat)) : Grid :=
  ⟨shared.foldl (fun cells (first, start, count) =>
    fill cells first (other.cells.extract start (start + count)).toList) g.cells⟩

/-- The characters of a grid. -/
def chars (g : Grid) : List Char := g.cells.toList.filter (· ≠ hole)

/-! ## Squares of 94 rows -/

/-- How many cells a square has. -/
def square : Nat := 8836

/-- The number of a cell of a square, by two numbers from 0x21 to 0x7E. -/
def squareCell? (a b : Nat) : Option Nat :=
  if 0x21 ≤ a && a ≤ 0x7E && 0x21 ≤ b && b ≤ 0x7E then some ((a - 0x21) * 94 + (b - 0x21)) else none

/-- The character in a cell of a square. -/
def inSquare? (g : Grid) (a b : Nat) : Option Char := (squareCell? a b).bind g.at?

/-- The character in a cell of a square, by two bytes with the upper bit set. -/
def inUpperSquare? (g : Grid) (a b : Nat) : Option Char :=
  if 0x80 ≤ a && 0x80 ≤ b then g.inSquare? (a - 0x80) (b - 0x80) else none

theorem at?_ne_hole {g : Grid} {n : Nat} {c : Char} (h : g.at? n = some c) : c ≠ hole := by
  simp only [at?, Option.filter_eq_some_iff] at h
  simpa using h.2

end Grid

end GirDoc.Text
