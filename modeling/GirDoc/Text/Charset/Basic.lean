import GirDoc.Text.Grid
import GirDoc.Text.Utf8

/-!
# Encodings of text

The ways in which bytes stand for characters. Most encodings are read step by step: the next bytes stand for
some characters, and what they stand for may depend on a state that earlier bytes left.
-/

namespace GirDoc.Text

/-- What bytes were found to stand for. -/
structure Decoded where
  chars : List Char
  /-- The bytes from the first on that stand for nothing. -/
  rest : List UInt8
  /-- Whether the characters are all, and the text may end with them. -/
  isWhole : Bool

/-- An encoding of text. -/
structure Charset where
  read : List UInt8 → Decoded

namespace Charset

/-- The text that bytes stand for; `none` if they stand for none. -/
def decode? (cs : Charset) (bytes : List UInt8) : Option (List Char) :=
  let d := cs.read bytes
  if d.isWhole then some d.chars else none

/-! ## Steps -/

/-- What the next bytes stand for. -/
structure Piece (σ : Type) where
  chars : List Char
  /-- How many bytes they are. -/
  size : Nat
  /-- The state that they leave. -/
  next : σ

/-- A way to read the next bytes in a state. -/
abbrev Step (σ : Type) := σ → List UInt8 → Option (Piece σ)

/-- Reads bytes step by step. `finish` is what stands at the end in a state, if text may end there. -/
def readBy {σ : Type} (step : Step σ) (finish : σ → Option (List Char)) (state : σ) (bytes : List UInt8) :
    Decoded :=
  match bytes with
  | [] => match finish state with
    | some cs => { chars := cs, rest := [], isWhole := true }
    | none => { chars := [], rest := [], isWhole := false }
  | b :: rest => match step state (b :: rest) with
    | none => { chars := [], rest := b :: rest, isWhole := false }
    | some piece =>
      let d := readBy step finish piece.next (rest.drop (piece.size - 1))
      { d with chars := piece.chars ++ d.chars }
termination_by bytes.length
decreasing_by
  simp only [List.length_drop, List.length_cons]
  omega

/-- An encoding that is read step by step from a state on. -/
def ofStep {σ : Type} (start : σ) (step : Step σ) : Charset :=
  ⟨readBy step (fun _ => some []) start⟩

/-- Some characters and the number of bytes that stand for them. -/
abbrev Taken := Option (List Char × Nat)

/-- An encoding whose steps depend on no state. -/
def ofTakes (take : List UInt8 → Taken) : Charset :=
  ofStep () fun _ bytes => (take bytes).map fun (chars, size) => { chars, size, next := () }

/-- One character of some bytes. -/
def one (size : Nat) (c : Option Char) : Taken := c.map fun c => ([c], size)

/-! ## Encodings of one byte a character -/

/-- An encoding in which each byte stands for a character, or for nothing. -/
def ofBytes (char? : Nat → Option Char) : Charset :=
  ofTakes fun
    | [] => none
    | b :: _ => one 1 (char? b.toNat)

/-- A character of ASCII. -/
def ascii? (n : Nat) : Option Char := if n < 0x80 then some (Char.ofNat n) else none

/-- A byte is a character of ASCII. -/
def ascii : Charset := ofBytes ascii?

/-- A byte is the character with its number. -/
def latin1 : Charset := ofBytes fun n => some (Char.ofNat n)

/-- Looks a byte up in a table. A table of half the size leaves out ASCII. -/
def lookUp (chars : Array Char) (n : Nat) : Option Char :=
  if chars.size < 256 && n < 128 then some (Char.ofNat n)
  else (chars[if chars.size < 256 then n - 128 else n]?).filter (· ≠ Grid.hole)

/-- A byte stands for what a table says. -/
def table (chars : String) : Charset := ofBytes (lookUp chars.toList.toArray)

/-! ## Encodings of all characters -/

/-- UTF-8. -/
def utf8 : Charset :=
  ⟨fun bytes =>
    let (chars, rest) := Utf8.decodeStart bytes
    { chars, rest, isWhole := rest.isEmpty }⟩

/-- The number that bytes stand for, the first of them counting most or least. -/
def number (bigEndian : Bool) (bytes : List UInt8) : Nat :=
  (if bigEndian then bytes else bytes.reverse).foldl (fun n b => n * 256 + b.toNat) 0

/-- The number of the first bytes, if there are so many. -/
def unit? (size : Nat) (bigEndian : Bool) (bytes : List UInt8) : Option Nat :=
  let first := bytes.take size
  if first.length = size then some (number bigEndian first) else none

/-- Whether a number is the first half of a surrogate pair. -/
def isHigh (u : Nat) : Bool := 0xD800 ≤ u && u < 0xDC00

/-- Whether a number is the second half of a surrogate pair. -/
def isLow (u : Nat) : Bool := 0xDC00 ≤ u && u < 0xE000

/-- The character of a surrogate pair. -/
def joined (u v : Nat) : Char := Char.ofNat (0x10000 + (u - 0xD800) * 0x400 + (v - 0xDC00))

/-- UTF-16. -/
def utf16 (bigEndian : Bool) : Charset :=
  ofTakes fun bytes => do
    let u ← unit? 2 bigEndian bytes
    if isHigh u then
      let v ← unit? 2 bigEndian (bytes.drop 2)
      if isLow v then some ([joined u v], 4) else none
    else one 2 (Utf8.charOf? 0 u)

/-- UTF-32. -/
def utf32 (bigEndian : Bool) : Charset :=
  ofTakes fun bytes => do one 4 (Utf8.charOf? 0 (← unit? 4 bigEndian bytes))

end Charset

end GirDoc.Text
