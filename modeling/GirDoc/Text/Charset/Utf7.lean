import GirDoc.Text.Base64
import GirDoc.Text.Charset.Basic

/-!
# UTF-7

Characters of ASCII stand for themselves. All others stand in sections between a plus sign and a character
that is none of Base64, where six bits a character spell the units of UTF-16.
-/

namespace GirDoc.Text.Charset

/-- Where the reader of UTF-7 is. -/
inductive Utf7 where
  /-- Outside of sections. -/
  | plain
  /-- In a section, with `count` bits that are left over, and with the first half of a pair. -/
  | coded (bits count : Nat) (high : Option Nat)

/-- The six bits of a byte. -/
def sextet? (b : UInt8) : Option Nat := Base64.sextet? (Char.ofNat b.toNat)

/-- How strictly UTF-7 is read. -/
structure Utf7Rules where
  /-- The characters that stand for themselves; the plus sign is none of them. -/
  isDirect : Char → Bool
  /-- Whether a section may be empty. -/
  allowsEmpty : Bool

/-- The unit of sixteen bits that a section has gained, in a section with its first half of a pair. -/
def takeUnit (unit : Nat) (bits count : Nat) : Option Nat → Option (Piece Utf7)
  | some high =>
    if !isLow unit then none
    else some { chars := [joined high unit], size := 1, next := .coded bits count none }
  | none =>
    if isHigh unit then some { chars := [], size := 1, next := .coded bits count (some unit) }
    else (Utf8.charOf? 0 unit).map fun c => { chars := [c], size := 1, next := .coded bits count none }

/-- Whether a section may end: all characters are complete, and the bits past them are zero. -/
def mayEnd (bits count : Nat) (high : Option Nat) : Bool := high.isNone && count < 6 && bits = 0

/-- The next bytes in a section. -/
def codedStep (bits count : Nat) (high : Option Nat) (b : UInt8) : Option (Piece Utf7) :=
  match sextet? b with
  | some n =>
    let bits := bits * 64 + n
    let count := count + 6
    if count < 16 then some { chars := [], size := 1, next := .coded bits count high }
    else
      let left := count - 16
      let scale := 1 <<< left
      takeUnit (bits / scale) (bits % scale) left high
  | none => none

/-- The next bytes outside of sections. -/
def plainStep (rules : Utf7Rules) (b : UInt8) (rest : List UInt8) : Option (Piece Utf7) :=
  let c := Char.ofNat b.toNat
  if c = '+' then
    match rest with
    | [] => some { chars := [], size := 1, next := .coded 0 0 none }
    | next :: _ =>
      if next = 0x2D then some { chars := ['+'], size := 2, next := .plain }
      else if (sextet? next).isSome || rules.allowsEmpty then
        some { chars := [], size := 1, next := .coded 0 0 none }
      else none
  else if b < 0x80 && rules.isDirect c then some { chars := [c], size := 1, next := .plain }
  else none

/-- The next bytes of UTF-7. A hyphen that ends a section stands for nothing else. -/
def utf7Step (rules : Utf7Rules) : Step Utf7 := fun st bytes =>
  match st, bytes with
  | _, [] => none
  | .plain, b :: rest => plainStep rules b rest
  | .coded bits count high, b :: rest =>
    if (sextet? b).isSome then codedStep bits count high b
    else if !mayEnd bits count high then none
    else if b = 0x2D then some { chars := [], size := 1, next := .plain }
    else plainStep rules b rest

/-- UTF-7. -/
def utf7 (rules : Utf7Rules) : Charset :=
  ⟨readBy (utf7Step rules) (fun
    | .plain => some []
    | .coded bits count high => if mayEnd bits count high then some [] else none) .plain⟩

/-- All characters of ASCII but the plus sign stand for themselves. -/
def looseUtf7 : Utf7Rules where
  isDirect := fun _ => true
  allowsEmpty := false

/-- All printable characters stand for themselves but the backslash and the tilde. -/
def strictUtf7 : Utf7Rules where
  isDirect := fun c => c = '\t' || c = '\n' || c = '\r' || (' ' ≤ c && c < '~' && c ≠ '\\')
  allowsEmpty := true

end GirDoc.Text.Charset
