import GirDoc.Text.Charset.Basic
import GirDoc.Text.Letters
import GirDoc.Text.Split

/-!
# Punycode and labels

Punycode writes a text with letters and digits of ASCII: first its own characters of ASCII, then, behind the
last hyphen, where the others go. A label of a name of the network is written so behind a mark.
-/

namespace GirDoc.Text.Punycode

/-! ## Numbers -/

/-- The bias of a step that was scaled down, with what the scaling adds. -/
def adaptBy : (fuel : Nat) → (delta k : Nat) → Nat
  | 0, _, k => k
  | fuel + 1, delta, k =>
    if 455 < delta then adaptBy fuel (delta / 35) (k + 36) else k + 36 * delta / (delta + 38)

/-- The bias that follows a number. -/
def adapt (delta : Nat) (isFirst : Bool) (count : Nat) : Nat :=
  let delta := if isFirst then delta / 700 else delta / 2
  let delta := delta + delta / count
  adaptBy delta delta 0

/-- The least digit that does not end a number, at a place. -/
def threshold (place bias : Nat) : Nat :=
  let n := 36 * (place + 1)
  if n ≤ bias then 1 else min 26 (max 1 (n - bias))

/-- The value of a digit. -/
def digit? (c : Char) : Option Nat :=
  if 'a' ≤ c && c ≤ 'z' then some (c.toNat - 97)
  else if 'A' ≤ c && c ≤ 'Z' then some (c.toNat - 65)
  else if c.isDigit then some (c.toNat - 22)
  else none

/-- The digit of a value. -/
def digit (n : Nat) : Char := if n < 26 then Char.ofNat (97 + n) else Char.ofNat (22 + n)

/-- Reads a number; what is left of the digits follows it. -/
def number? (bias : Nat) : (place weight value : Nat) → List Char → Option (Nat × List Char)
  | _, _, _, [] => none
  | place, weight, value, c :: rest => do
    let d ← digit? c
    let value := value + d * weight
    let t := threshold place bias
    if d < t then some (value, rest) else number? bias (place + 1) (weight * (36 - t)) value rest

/-- A number leaves fewer digits. -/
theorem length_lt_of_number? {bias value : Nat} {cs rest : List Char} :
    ∀ {place weight start : Nat}, number? bias place weight start cs = some (value, rest) →
      rest.length < cs.length := by
  induction cs with
  | nil => intro _ _ _ h; simp [number?] at h
  | cons c cs ih =>
    intro place weight start h
    simp only [number?, Option.bind_eq_bind, Option.bind_eq_some_iff] at h
    obtain ⟨d, _, h⟩ := h
    split at h
    · simp only [Option.some.injEq, Prod.mk.injEq] at h
      simp [h.2]
    · have := ih h
      simp only [List.length_cons]
      omega

/-- Writes a number at a place. -/
def digitsFrom (bias : Nat) : (fuel : Nat) → (place n : Nat) → List Char
  | 0, _, _ => []
  | fuel + 1, place, n =>
    let t := threshold place bias
    if n < t then [digit n]
    else digit (t + (n - t) % (36 - t)) :: digitsFrom bias fuel (place + 1) ((n - t) / (36 - t))

/-- Writes a number. -/
def digits (bias n : Nat) : List Char := digitsFrom bias (n + 1) 0 n

/-! ## Texts -/

/-- Puts the characters that digits tell into a text. `code` is the number of the character that was put last,
and `start` the place behind it. -/
def insertAll (isFirst : Bool) (bias code start : Nat) (text : List Char) (written : List Char) :
    Option (List Char) :=
  match written with
  | [] => some text
  | c :: cs =>
    match _h : number? bias 0 1 0 (c :: cs) with
    | none => none
    | some (delta, rest) =>
      let place := start + delta
      let count := text.length + 1
      let code := code + place / count
      match Utf8.charOf? 0 code with
      | none => none
      | some new =>
        let place := place % count
        insertAll false (adapt delta isFirst count) code (place + 1) (text.insertIdx place new) rest
termination_by written.length
decreasing_by exact length_lt_of_number? ‹_›

/-- The parts before and behind the last hyphen; all is behind it if there is none. -/
def parts (cs : List Char) : List Char × List Char :=
  let behind := cs.reverse.takeWhile (· ≠ '-')
  ((cs.reverse.drop (behind.length + 1)).reverse, behind.reverse)

/-- The text that is written in Punycode. -/
def decode? (cs : List Char) : Option (List Char) :=
  let (plain, written) := parts cs
  insertAll true 72 128 0 plain written

/-- The steps from one character to be written to the next, in the order of their numbers. -/
structure Writing where
  bias : Nat := 72
  code : Nat := 128
  delta : Nat := 0
  /-- How many characters are written. -/
  count : Nat
  isFirst : Bool := true
  out : List Char := []

/-- Passes a character of the text while those with one number are written. -/
def Writing.pass (code : Nat) (w : Writing) (c : Char) : Writing :=
  if c.toNat < code then { w with delta := w.delta + 1 }
  else if c.toNat = code then
    { w with
      out := w.out ++ digits w.bias w.delta
      bias := adapt w.delta w.isFirst (w.count + 1)
      delta := 0, count := w.count + 1, isFirst := false }
  else w

/-- Writes the characters with one number. -/
def Writing.round (text : List Char) (w : Writing) (code : Nat) : Writing :=
  let w := { w with delta := w.delta + (code - w.code) * (w.count + 1) }
  let w := text.foldl (Writing.pass code) w
  { w with delta := w.delta + 1, code := code + 1 }

/-- Writes a text in Punycode. -/
def encode (text : List Char) : List Char :=
  let plain := text.filter (·.toNat < 128)
  let codes := ((text.filter (128 ≤ ·.toNat)).map Char.toNat).eraseDups.mergeSort (· ≤ ·)
  let w := codes.foldl (Writing.round text) { count := plain.length }
  (if plain.isEmpty then [] else plain ++ ['-']) ++ w.out

end GirDoc.Text.Punycode

namespace GirDoc.Text.Label

/-- The mark of a label in Punycode. -/
def mark : List Char := "xn--".toList

/-- The longest label that is looked at. -/
def longest : Nat := 1024

/-- The first and last numbers of runs of characters in lower case that a label does not keep: it has others
in their place, or cannot have them. -/
def lost : List (Nat × Nat) :=
  [(0x80, 0xA0), (0xA8, 0xA8), (0xAA, 0xAA), (0xAD, 0xAD), (0xAF, 0xAF), (0xB2, 0xB5), (0xB8, 0xBA),
    (0xBC, 0xBE), (0xDF, 0xDF), (0x133, 0x133), (0x140, 0x140), (0x149, 0x149), (0x17F, 0x17F),
    (0x1C6, 0x1C6), (0x1C9, 0x1C9), (0x1CC, 0x1CC), (0x1F3, 0x1F3), (0x2B0, 0x2B8), (0x2D8, 0x2DD),
    (0x2E0, 0x2E4), (0x340, 0x341), (0x343, 0x345), (0x34F, 0x34F), (0x374, 0x374), (0x37A, 0x37A),
    (0x37E, 0x37E), (0x384, 0x385), (0x387, 0x387), (0x3C2, 0x3C2), (0x3D0, 0x3D6), (0x3F0, 0x3F2),
    (0x3F5, 0x3F5), (0x587, 0x587), (0x675, 0x678), (0x6DD, 0x6DD), (0x70F, 0x70F), (0x958, 0x95F),
    (0x9DC, 0x9DD), (0x9DF, 0x9DF), (0xA33, 0xA33), (0xA36, 0xA36), (0xA59, 0xA5B), (0xA5E, 0xA5E),
    (0xB5C, 0xB5D), (0xE33, 0xE33), (0xEB3, 0xEB3), (0xEDC, 0xEDD), (0xF0C, 0xF0C), (0xF43, 0xF43),
    (0xF4D, 0xF4D), (0xF52, 0xF52), (0xF57, 0xF57), (0xF5C, 0xF5C), (0xF69, 0xF69), (0xF73, 0xF73),
    (0xF75, 0xF79), (0xF81, 0xF81), (0xF93, 0xF93), (0xF9D, 0xF9D), (0xFA2, 0xFA2), (0xFA7, 0xFA7),
    (0xFAC, 0xFAC), (0xFB9, 0xFB9), (0x1680, 0x1680), (0x1806, 0x1806), (0x180B, 0x180E),
    (0x1E9A, 0x1E9B), (0x1F71, 0x1F71), (0x1F73, 0x1F73), (0x1F75, 0x1F75), (0x1F77, 0x1F77),
    (0x1F79, 0x1F79), (0x1F7B, 0x1F7B), (0x1F7D, 0x1F7D), (0x1F80, 0x1F87), (0x1F90, 0x1F97),
    (0x1FA0, 0x1FA7), (0x1FB2, 0x1FB4), (0x1FB7, 0x1FB7), (0x1FBD, 0x1FC4), (0x1FC7, 0x1FC7),
    (0x1FCD, 0x1FCF), (0x1FD3, 0x1FD3), (0x1FDD, 0x1FDF), (0x1FE3, 0x1FE3), (0x1FED, 0x1FEF),
    (0x1FF2, 0x1FF4), (0x1FF7, 0x1FF7), (0x1FFD, 0x1FFE), (0x2000, 0x200F), (0x2011, 0x2011),
    (0x2017, 0x2017), (0x2024, 0x2026), (0x2028, 0x202F), (0x2033, 0x2034), (0x2036, 0x2037),
    (0x203C, 0x203C), (0x203E, 0x203E), (0x2047, 0x2049), (0x2057, 0x2057), (0x205F, 0x2063),
    (0x206A, 0x2071), (0x2074, 0x208E), (0x20A8, 0x20A8), (0x2100, 0x2103), (0x2105, 0x2107),
    (0x2109, 0x2113), (0x2115, 0x2116), (0x2119, 0x211D), (0x2120, 0x2122), (0x2124, 0x2124),
    (0x2128, 0x2128), (0x212C, 0x212D), (0x212F, 0x2131), (0x2133, 0x2139), (0x213D, 0x2140),
    (0x2145, 0x2149), (0x2153, 0x215F), (0x2170, 0x217F), (0x222C, 0x222D), (0x222F, 0x2230),
    (0x2329, 0x232A), (0x2460, 0x24B5), (0x24D0, 0x24EA), (0x2A0C, 0x2A0C), (0x2A74, 0x2A76),
    (0x2ADC, 0x2ADC), (0x2E9F, 0x2E9F), (0x2EF3, 0x2EF3), (0x2F00, 0x2FD5), (0x2FF0, 0x2FFB),
    (0x3000, 0x3000), (0x3036, 0x3036), (0x3038, 0x303A), (0x309B, 0x309C), (0x309F, 0x309F),
    (0x30FF, 0x30FF), (0x3131, 0x318E), (0x3192, 0x319F), (0x3200, 0x321C), (0x3220, 0x3243),
    (0x3251, 0x327B), (0x3280, 0x32CB), (0x32D0, 0x32FE), (0x3300, 0x3376), (0x337B, 0x33DD),
    (0x33E0, 0x33FE), (0xE000, 0xFA0D), (0xFA10, 0xFA10), (0xFA12, 0xFA12), (0xFA15, 0xFA1E),
    (0xFA20, 0xFA20), (0xFA22, 0xFA22), (0xFA25, 0xFA26), (0xFA2A, 0xFA2D), (0xFA30, 0xFA6A),
    (0xFB00, 0xFB06), (0xFB13, 0xFB17), (0xFB1D, 0xFB1D), (0xFB1F, 0xFB36), (0xFB38, 0xFB3C),
    (0xFB3E, 0xFB3E), (0xFB40, 0xFB41), (0xFB43, 0xFB44), (0xFB46, 0xFBB1), (0xFBD3, 0xFD3D),
    (0xFD50, 0xFD8F), (0xFD92, 0xFDC7), (0xFDD0, 0xFDFC), (0xFE00, 0xFE0F), (0xFE30, 0xFE44),
    (0xFE49, 0xFE52), (0xFE54, 0xFE66), (0xFE68, 0xFE6B), (0xFE70, 0xFE72), (0xFE74, 0xFE74),
    (0xFE76, 0xFEFC), (0xFEFF, 0xFEFF), (0xFF01, 0xFF20), (0xFF3B, 0xFFBE), (0xFFC2, 0xFFC7),
    (0xFFCA, 0xFFCF), (0xFFD2, 0xFFD7), (0xFFDA, 0xFFDC), (0xFFE0, 0xFFE6), (0xFFE8, 0xFFEE),
    (0xFFF9, 0xFFFF), (0x1D15E, 0x1D164), (0x1D173, 0x1D17A), (0x1D1BB, 0x1D1C0), (0x1D400, 0x1D454),
    (0x1D456, 0x1D49C), (0x1D49E, 0x1D49F), (0x1D4A2, 0x1D4A2), (0x1D4A5, 0x1D4A6), (0x1D4A9, 0x1D4AC),
    (0x1D4AE, 0x1D4B9), (0x1D4BB, 0x1D4BB), (0x1D4BD, 0x1D4C0), (0x1D4C2, 0x1D4C3), (0x1D4C5, 0x1D505),
    (0x1D507, 0x1D50A), (0x1D50D, 0x1D514), (0x1D516, 0x1D51C), (0x1D51E, 0x1D539), (0x1D53B, 0x1D53E),
    (0x1D540, 0x1D544), (0x1D546, 0x1D546), (0x1D54A, 0x1D550), (0x1D552, 0x1D6A3), (0x1D6A8, 0x1D7C9),
    (0x1D7CE, 0x1D7FF), (0x1FFFE, 0x1FFFF), (0x2F800, 0x2FA1D), (0x2FFFE, 0x2FFFF), (0x3FFFE, 0x3FFFF),
    (0x4FFFE, 0x4FFFF), (0x5FFFE, 0x5FFFF), (0x6FFFE, 0x6FFFF), (0x7FFFE, 0x7FFFF), (0x8FFFE, 0x8FFFF),
    (0x9FFFE, 0x9FFFF), (0xAFFFE, 0xAFFFF), (0xBFFFE, 0xBFFFF), (0xCFFFE, 0xCFFFF), (0xDFFFE, 0xDFFFF),
    (0xE0001, 0xE0001), (0xE0020, 0xE007F), (0xEFFFE, 0x10FFFF)]

/-- Whether a label keeps a character in lower case. -/
def keeps (c : Char) : Bool := !lost.any fun (first, last) => first ≤ c.toNat && c.toNat ≤ last

/-- Whether a label that is written has a proper length. -/
def fits (label : List Char) : Bool := 0 < label.length && label.length < 64

/-- The label of a text, in lower case. -/
def ofText? (text : List Char) : Option (List Char) :=
  if text.all (·.toNat < 128) then if fits text then some text else none
  else
    let text := text.flatMap lowerChar
    let label := mark ++ Punycode.encode text
    if text.all keeps && !mark.isPrefixOf text && fits label then some label else none

/-- The text of a label. One in Punycode has to be what its text is written as. -/
def decode? (label : List Char) : Option (List Char) :=
  if longest < label.length then none
  else if !mark.isPrefixOf label then some label
  else do
    let text ← Punycode.decode? (label.drop mark.length)
    if (← ofText? text) = label.map Char.toLower then some text else none

/-- The text of labels between full stops. -/
def decodeAll? (cs : List Char) : Option (List Char) :=
  ((splitChars '.' cs).mapM decode?).map fun labels => List.intercalate ['.'] labels

end GirDoc.Text.Label
