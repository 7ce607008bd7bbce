import GirDoc.Text.Charset.Chinese
import GirDoc.Text.Charset.Japanese
import GirDoc.Text.Charset.Korean
import GirDoc.Text.Charset.Table
import GirDoc.Text.Charset.Traditional

/-!
# Encodings with designations

In these encodings the bytes of ASCII stand for characters of several coded sets. Escape sequences designate
the sets, and shifts choose between those designated.
-/

namespace GirDoc.Text.Charset

open Grid

/-! ## Coded sets -/

/-- A coded set that can be designated. -/
inductive CodedSet where
  | ascii
  | roman
  | narrow
  | latin
  /-- The Greek letters, with or without the signs of the later edition. -/
  | greek (isLater : Bool)
  | jis0208
  | jis0212
  /-- The first plane of JIS X 0213 in its first or second edition. -/
  | firstPlane (second : Bool)
  /-- The second plane of JIS X 0213 in its first or second edition. -/
  | secondPlane (second : Bool)
  | gb2312
  /-- KS X 1001, with or without the sign of the post. -/
  | ks1001 (hasPost : Bool)
  | cnsFirst
  | cnsSecond
  deriving DecidableEq

namespace CodedSet

/-- How many bytes stand for a character. -/
def width : CodedSet → Nat
  | ascii | roman | narrow | latin | greek _ => 1
  | _ => 2

/-- The table of the Greek letters. -/
def greekTable : Array Char := Table.iso88597.toList.toArray

/-- The character of one byte. -/
def ofByte? : CodedSet → Nat → Option Char
  | ascii, n => ascii? n
  | roman, n => roman? n
  | narrow, n => narrow? (n + 0x80)
  | latin, n => if n < 0x80 then some (Char.ofNat (n + 0x80)) else none
  | greek isLater, n =>
    if 0x80 ≤ n || (!isLater && [0x24, 0x25, 0x2A].contains n) then none else lookUp greekTable (n + 0x80)
  | _, _ => none

/-- The characters of two bytes. -/
def ofPair? : CodedSet → Nat → Nat → Option (List Char)
  | jis0208, a, b => (Grid.jis0208.inSquare? a b).map ([·])
  | jis0212, a, b => (Grid.jis0212.inSquare? a b).map ([·])
  | firstPlane second, a, b => firstPlane? second a b
  | secondPlane second, a, b => (secondPlane? second a b).map ([·])
  | gb2312, a, b => (Grid.gb2312.inSquare? a b).map ([·])
  | ks1001 hasPost, a, b => (ksCell? hasPost a b).map ([·])
  | cnsFirst, a, b => (Grid.cnsFirst.inSquare? a b).map ([·])
  | cnsSecond, a, b => (Grid.cnsSecond.inSquare? a b).map ([·])
  | _, _, _ => none

/-- The characters at the front of bytes. -/
def take? (set : CodedSet) (bytes : List UInt8) : Taken :=
  match set.width, bytes with
  | 1, a :: _ => one 1 (set.ofByte? a.toNat)
  | 2, a :: b :: _ => (set.ofPair? a.toNat b.toNat).map (·, 2)
  | _, _ => none

end CodedSet

/-- The byte that begins an escape sequence. -/
def escape : UInt8 := 0x1B

/-- The byte that shifts to the second set. -/
def shiftOut : UInt8 := 0x0E

/-- The byte that shifts back to the first set. -/
def shiftIn : UInt8 := 0x0F

/-- The byte behind an escape that puts a character of the third set. -/
def shiftOnce : UInt8 := 0x4E

/-! ## Sequences of any form -/

/-- The state of an encoding: the sets designated in three places, whether the second is chosen, and whether
a sequence that designates nothing is passed through. -/
structure Designated where
  first : CodedSet := .ascii
  second : CodedSet := .ascii
  third : CodedSet := .ascii
  isShifted : Bool := false
  passesThrough : Bool := false

/-- The rules of an encoding. -/
structure Designations where
  /-- The sets of one byte, by the last bytes of their sequences. -/
  narrow : List (Char × CodedSet) := []
  /-- The sets of two bytes, by the last bytes of their sequences. -/
  wide : List (Char × CodedSet) := []
  /-- Whether bytes shift between the first and second sets. -/
  hasShifts : Bool := false
  /-- Whether a character of the third set can stand after a mark. -/
  hasThird : Bool := false
  /-- Whether a mark of a later edition may stand before a designation. -/
  hasEditions : Bool := true

/-- Whether a byte ends an escape sequence. -/
def endsSequence (b : UInt8) : Bool := (0x41 ≤ b && b ≤ 0x5A) || b = 0x40

/-- The longest escape sequence. -/
def longestSequence : Nat := 16

/-- The number of bytes of an escape sequence, counted from one of its bytes on; the mark of an edition counts
for itself. -/
def sequenceSize? (hasEditions : Bool) : (place : Nat) → List UInt8 → Option Nat
  | place, bytes =>
    match bytes with
    | [] => none
    | b :: rest =>
      if longestSequence ≤ place then none
      else if endsSequence b then some (place + 1)
      else if hasEditions && b = 0x26 && rest.head? = some 0x40 then
        match rest with
        | _ :: _ :: rest => sequenceSize? hasEditions (place + 3) rest
        | _ => none
      else sequenceSize? hasEditions (place + 1) rest
termination_by _ bytes => bytes.length

/-- The set that a sequence of one byte designates. -/
def Designations.narrowSet? (d : Designations) (last : UInt8) : Option CodedSet :=
  if last = 0x42 then some .ascii else d.narrow.lookup (Char.ofNat last.toNat)

/-- The set that a sequence of two bytes designates. -/
def Designations.wideSet? (d : Designations) (last : UInt8) : Option CodedSet :=
  d.wide.lookup (Char.ofNat last.toNat)

/-- The state that an escape sequence leaves. -/
def Designations.designate? (d : Designations) (st : Designated) (bytes : List UInt8) :
    Option (Designated × Nat) := do
  let size ← sequenceSize? d.hasEditions 1 (bytes.drop 1)
  match bytes.take size with
  | [_, 0x24, last] => some ({ st with first := ← d.wideSet? last }, size)
  | [_, 0x28, last] => some ({ st with first := ← d.narrowSet? last }, size)
  | [_, 0x29, last] => some ({ st with second := ← d.narrowSet? last }, size)
  | [_, 0x2E, last] =>
    if d.hasThird then some ({ st with third := ← d.narrowSet? last }, size) else none
  | [_, 0x24, 0x28, last] => some ({ st with first := ← d.wideSet? last }, size)
  | [_, 0x24, 0x29, last] => some ({ st with second := ← d.wideSet? last }, size)
  | [_, _, _, 0x1B, 0x24, 0x42] =>
    if d.hasEditions then some ({ st with first := ← d.wideSet? 0x42 }, size) else none
  | _ => none

/-- The character of the third set behind a mark. -/
def thirdChar? (set : CodedSet) (n : Nat) : Option Char :=
  match set with
  | .latin | .greek _ | .ascii => set.ofByte? n
  | _ => none

/-- The next bytes of an encoding with designations. -/
def Designations.step (d : Designations) : Step Designated := fun st bytes =>
  let plain (b : UInt8) (next : Designated) : Option (Piece Designated) :=
    some { chars := [Char.ofNat b.toNat], size := 1, next }
  match bytes with
  | [] => none
  | b :: rest =>
    if st.passesThrough then plain b { st with passesThrough := !endsSequence b }
    else if b = escape then match rest with
      | [] => none
      | 0x28 :: _ | 0x29 :: _ | 0x24 :: _ | 0x2E :: _ | 0x26 :: _ =>
        (d.designate? st bytes).map fun (next, size) => { chars := [], size, next }
      | next :: more =>
        if d.hasThird && next = shiftOnce then do
          let c ← thirdChar? st.third (← more.head?).toNat
          some { chars := [c], size := 3, next := st }
        else plain b { st with passesThrough := true }
    else if d.hasShifts && (b = shiftIn || b = shiftOut) then
      some { chars := [], size := 1, next := { st with isShifted := b = shiftOut } }
    else if b = 0x0A then plain b { st with isShifted := false }
    else if b < 0x20 then plain b st
    else if 0x80 ≤ b then none
    else
      ((if st.isShifted then st.second else st.first).take? bytes).map fun (chars, size) =>
        { chars, size, next := st }

/-- An encoding with designations. -/
def designated (d : Designations) : Charset := ofStep {} d.step

/-- ISO-2022-JP. -/
def iso2022Jp : Designations := { wide := [('B', .jis0208), ('@', .jis0208)], narrow := [('J', .roman)] }

/-- ISO-2022-JP-1. -/
def iso2022Jp1 : Designations :=
  { wide := [('B', .jis0208), ('@', .jis0208), ('D', .jis0212)], narrow := [('J', .roman)] }

/-- ISO-2022-JP-2. -/
def iso2022Jp2 : Designations :=
  { wide := [('B', .jis0208), ('@', .jis0208), ('D', .jis0212), ('C', .ks1001 false), ('A', .gb2312)]
    narrow := [('J', .roman), ('A', .latin), ('F', .greek false)], hasThird := true }

/-- ISO-2022-JP-3. -/
def iso2022Jp3 : Designations :=
  { wide := [('B', .jis0208), ('O', .firstPlane false), ('P', .secondPlane false)] }

/-- ISO-2022-JP-2004. -/
def iso2022Jp2004 : Designations :=
  { wide := [('B', .jis0208), ('Q', .firstPlane true), ('P', .secondPlane true)] }

/-- ISO-2022-JP with narrow syllables. -/
def iso2022JpNarrow : Designations :=
  { wide := [('B', .jis0208), ('@', .jis0208), ('D', .jis0212)], narrow := [('J', .roman), ('I', .narrow)] }

/-- ISO-2022-KR. -/
def iso2022Kr : Designations := { wide := [('C', .ks1001 false)], hasShifts := true, hasEditions := false }

/-! ## Listed sequences -/

/-- Where a set is designated. -/
inductive Place where
  | first
  | second
  | third
  deriving DecidableEq

/-- The rules of an encoding that lists its sequences. -/
structure Sequences where
  /-- What stands behind the escapes, and what they designate. -/
  list : List (List UInt8 × Place × CodedSet)
  /-- Whether bytes shift between the first and second sets. -/
  hasShifts : Bool := false
  /-- Whether the end of a line ends what the second and third sets are. -/
  endsAtLines : Bool := false

/-- The sets that are designated, if any, and whether the second is chosen. -/
structure Listed where
  first : CodedSet := .ascii
  second : Option CodedSet := none
  third : Option CodedSet := none
  isShifted : Bool := false

/-- Designates a set. -/
def Listed.designate (st : Listed) (set : CodedSet) : Place → Listed
  | .first => { st with first := set }
  | .second => { st with second := some set }
  | .third => { st with third := some set }

/-- The state behind some characters. -/
def Sequences.after (s : Sequences) (st : Listed) (chars : List Char) : Listed :=
  if s.endsAtLines && (chars = ['\n'] || chars = ['\r']) then { st with second := none, third := none }
  else st

/-- The next bytes of an encoding that lists its sequences. -/
def Sequences.step (s : Sequences) : Step Listed := fun st bytes =>
  match bytes with
  | [] => none
  | b :: rest =>
    if b = escape then
      match s.list.find? fun (written, _) => written.isPrefixOf rest with
      | some (written, place, set) =>
        some { chars := [], size := written.length + 1, next := st.designate set place }
      | none => do
        if rest.head? ≠ some shiftOnce then none
        let (chars, size) ← (← st.third).take? (rest.drop 1)
        some { chars, size := size + 2, next := st }
    else if s.hasShifts && (b = shiftIn || b = shiftOut) then
      if b = shiftOut && st.second.isNone then none
      else some { chars := [], size := 1, next := { st with isShifted := b = shiftOut } }
    else do
      let set ← if st.isShifted then st.second else some st.first
      let (chars, size) ← set.take? bytes
      some { chars, size, next := if st.isShifted then st else s.after st chars }

/-- An encoding that lists its sequences. -/
def listed (s : Sequences) : Charset := ofStep {} s.step

/-- A sequence that designates a set. -/
def sequence (written : String) (place : Place) (set : CodedSet) : List UInt8 × Place × CodedSet :=
  (written.toUTF8.toList, place, set)

/-- The sequences of ISO-2022-JP. -/
def listedJp : List (List UInt8 × Place × CodedSet) :=
  [sequence "(B" .first .ascii, sequence "(J" .first .roman, sequence "$@" .first .jis0208,
    sequence "$B" .first .jis0208]

/-- The sequences of ISO-2022-JP-1. -/
def listedJp1 : List (List UInt8 × Place × CodedSet) := listedJp ++ [sequence "$(D" .first .jis0212]

/-- The sequences of ISO-2022-JP-2. -/
def listedJp2 : List (List UInt8 × Place × CodedSet) :=
  listedJp1 ++ [sequence "$A" .first .gb2312, sequence "$(C" .first (.ks1001 true),
    sequence ".A" .third .latin, sequence ".F" .third (.greek true)]

/-- The sequences of ISO-2022-JP with narrow syllables. -/
def listedJpNarrow : List (List UInt8 × Place × CodedSet) := listedJp1 ++ [sequence "(I" .first .narrow]

/-- The sequences of ISO-2022-KR. -/
def listedKr : List (List UInt8 × Place × CodedSet) := [sequence "$)C" .second (.ks1001 true)]

/-- The sequences of ISO-2022-CN. -/
def listedCn : List (List UInt8 × Place × CodedSet) :=
  [sequence "$)A" .second .gb2312, sequence "$)G" .second .cnsFirst, sequence "$*H" .third .cnsSecond]

end GirDoc.Text.Charset
