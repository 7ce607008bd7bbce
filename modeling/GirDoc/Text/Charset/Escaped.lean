import GirDoc.Text.CharacterName
import GirDoc.Text.Charset.Basic

/-!
# Characters behind backslashes

Encodings in which a backslash and what follows stand for another character, by its number or by its name.
-/

namespace GirDoc.Text.Charset

/-! ## Numbers -/

/-- The value of a hexadecimal digit. -/
def hexDigit? (b : UInt8) : Option Nat :=
  let n := b.toNat
  if 0x30 ≤ n && n ≤ 0x39 then some (n - 0x30)
  else if 0x41 ≤ n && n ≤ 0x46 then some (n - 0x37)
  else if 0x61 ≤ n && n ≤ 0x66 then some (n - 0x57)
  else none

/-- The number of so many hexadecimal digits. -/
def hexNumber? (count : Nat) (bytes : List UInt8) : Option Nat := do
  let digits ← (bytes.take count).mapM hexDigit?
  if digits.length < count then none
  some (digits.foldl (fun n d => n * 16 + d) 0)

/-- The character of a number in so many digits, behind a backslash and a letter. -/
def numbered? (count : Nat) (bytes : List UInt8) : Taken := do
  one (count + 2) (Utf8.charOf? 0 (← hexNumber? count bytes))

/-- Whether a byte is a digit below eight. -/
def isOctal (b : UInt8) : Bool := 0x30 ≤ b && b ≤ 0x37

/-- The backslash as a byte. -/
def backslash : UInt8 := 0x5C

/-! ## Sources -/

/-- The character that a letter behind a backslash stands for. -/
def letterEscape? (b : UInt8) : Option (List Char) :=
  match Char.ofNat b.toNat with
  | '\n' => some []
  | '\\' => some ['\\']
  | '\x27' => some ['\x27']
  | '\x22' => some ['\x22']
  | 'a' => some ['\x07']
  | 'b' => some ['\x08']
  | 'f' => some ['\x0c']
  | 'n' => some ['\n']
  | 'r' => some ['\r']
  | 't' => some ['\t']
  | 'v' => some ['\x0b']
  | _ => none

/-- The character of a name in braces, behind a backslash and a letter. -/
def named? : List UInt8 → Taken
  | 0x7B :: rest =>
    let name := rest.takeWhile (· ≠ 0x7D)
    if name.length = rest.length then none
    else one (name.length + 4) (CharacterName.find? (name.map fun b => Char.ofNat b.toNat))
  | _ => none

/-- What a backslash and the bytes behind it stand for. One that begins no escape stands for itself. -/
def escaped? : List UInt8 → Taken
  | [] => none
  | b :: rest =>
    if isOctal b then
      let digits := ((b :: rest).take 3).takeWhile isOctal
      one (digits.length + 1) (Utf8.charOf? 0 (digits.foldl (fun n d => n * 8 + (d.toNat - 0x30)) 0))
    else match letterEscape? b with
      | some chars => some (chars, 2)
      | none => match Char.ofNat b.toNat with
        | 'x' => numbered? 2 rest
        | 'u' => numbered? 4 rest
        | 'U' => numbered? 8 rest
        | 'N' => named? rest
        | _ => some (['\\'], 1)

/-- Bytes are the characters with their numbers, but for escapes as in a quoted text. -/
def quotedEscapes : Charset :=
  ofTakes fun
    | [] => none
    | b :: rest => if b = backslash then escaped? rest else some ([Char.ofNat b.toNat], 1)

/-- Bytes are the characters with their numbers, but for characters by larger numbers. -/
def numberEscapes : Charset :=
  ofTakes fun
    | [] => none
    | b :: rest =>
      if b ≠ backslash then some ([Char.ofNat b.toNat], 1)
      else match rest with
        | [] => some (['\\'], 1)
        | 0x75 :: more => numbered? 4 more
        | 0x55 :: more => numbered? 8 more
        | next :: _ => some (['\\', Char.ofNat next.toNat], 2)

/-! ## Documents -/

/-- Whether a character may be written by its number: none below U+00A0 but three signs. -/
def mayBeNumbered (n : Nat) : Bool := 0xA0 ≤ n || n = 0x24 || n = 0x40 || n = 0x60

/-- Bytes up to 0x9F are characters; others are written by numbers in four or eight digits. -/
def universalNames : Charset :=
  ofTakes fun
    | [] => none
    | b :: rest =>
      if 0xA0 ≤ b then none
      else
        let named (count : Nat) (more : List UInt8) : Taken := do
          let n ← hexNumber? count more
          if mayBeNumbered n then one (count + 2) (Utf8.charOf? 0 n) else none
        let numbered := match b, rest with
          | 0x5C, 0x75 :: more => named 4 more
          | 0x5C, 0x55 :: more => named 8 more
          | _, _ => none
        numbered <|> some ([Char.ofNat b.toNat], 1)

/-- The unit of UTF-16 that a backslash, a letter and four digits stand for. -/
def unitEscape? : List UInt8 → Option Nat
  | 0x5C :: 0x75 :: more => hexNumber? 4 more
  | _ => none

/-- Bytes of ASCII are characters; others are written as units of UTF-16. -/
def unitEscapes : Charset :=
  ofTakes fun
    | [] => none
    | b :: rest =>
      if 0x80 ≤ b then none
      else match unitEscape? (b :: rest) with
        | none => some ([Char.ofNat b.toNat], 1)
        | some u =>
          if isHigh u then match unitEscape? (rest.drop 5) with
            | some v => if isLow v then some ([joined u v], 12) else some (['\\'], 1)
            | none => some (['\\'], 1)
          else one 6 (Utf8.charOf? 0 u) <|> some (['\\'], 1)

end GirDoc.Text.Charset
