import GirDoc.Deflate

/-!
# Packed files

A packed file has members one after the other, each with a head, packed data, and a checksum and the length of
what was packed. What stands behind the last member is passed over. A file that ends too soon holds what was
there before its end. A file without the mark of a packed file stands for itself.
-/

namespace GirDoc.Gzip

open Deflate (Stop)

/-! ## Checksums -/

/-- A checksum with one more bit shifted out. -/
def shifted (sum : UInt32) : UInt32 :=
  if sum &&& 1 = 1 then (sum >>> 1) ^^^ 0xEDB88320 else sum >>> 1

/-- A checksum with one more byte. -/
def addByte (sum : UInt32) (b : UInt8) : UInt32 :=
  (List.range 8).foldl (fun sum _ => shifted sum) (sum ^^^ b.toUInt32)

/-- The checksum of bytes. -/
def checksum (bytes : List UInt8) : UInt32 := bytes.foldl addByte 0xFFFFFFFF ^^^ 0xFFFFFFFF

/-! ## Heads -/

/-- A number of bytes, the lowest first. -/
def littleEndian : List UInt8 → Nat
  | [] => 0
  | b :: rest => b.toNat + 256 * littleEndian rest

/-- The first bytes and those behind them. -/
def split (n : Nat) (bytes : List UInt8) : Except Stop (List UInt8 × List UInt8) :=
  if bytes.length < n then .error .cut else .ok (bytes.splitAt n)

/-- The bytes behind a text, which ends with a zero. -/
def pastText (bytes : List UInt8) : Except Stop (List UInt8) :=
  match bytes.dropWhile (· ≠ 0) with
  | [] => .error .cut
  | _ :: rest => .ok rest

/-- The bytes behind further data, which begin with their length. -/
def pastData (bytes : List UInt8) : Except Stop (List UInt8) := do
  let (size, rest) ← split 2 bytes
  return (← split (littleEndian size) rest).2

/-- The bytes behind the head of a member: marks, four bytes of time, two more, and the parts that the marks
speak of, which are further data, a name, a remark and a checksum of the head. -/
def pastHead (bytes : List UInt8) : Except Stop (List UInt8) := do
  let (head, rest) ← split 10 bytes
  let marks := (head.getD 3 0).toNat
  unless head[2]? = some 8 && marks < 0x20 do throw .broken
  let rest ← if marks.testBit 2 then pastData rest else pure rest
  let rest ← if marks.testBit 3 then pastText rest else pure rest
  let rest ← if marks.testBit 4 then pastText rest else pure rest
  if marks.testBit 1 then
    let read := bytes.take (bytes.length - rest.length)
    let (sum, rest) ← split 2 rest
    unless littleEndian sum = (checksum read).toNat % 0x10000 do throw .broken
    return rest
  else return rest

/-! ## Members -/

/-- Whether bytes begin as a packed file does. -/
def isPacked : List UInt8 → Bool
  | 0x1F :: 0x8B :: _ => true
  | _ => false

/-- What a member holds, and the bytes behind it unless the unpacking stopped. -/
def member (bytes : List UInt8) : Array UInt8 × Except Stop (List UInt8) :=
  match pastHead bytes with
  | .error e => (#[], .error e)
  | .ok data =>
    match Deflate.unpack (data.flatMap Deflate.byteBits) with
    | ⟨out, .error e⟩ => (out, .error e)
    | ⟨out, .ok bits⟩ =>
      (out, do
        let (sum, rest) ← split 4 (data.drop (data.length - bits.length / 8))
        let (size, rest) ← split 4 rest
        unless littleEndian sum = (checksum out.toList).toNat && littleEndian size = out.size do
          throw .broken
        return rest)

/-- What the members of a file hold; `none` if one is broken. -/
def members : Nat → List UInt8 → Option (List UInt8)
  | 0, _ => some []
  | fuel + 1, bytes =>
    if isPacked bytes then
      match member bytes with
      | (_, .error .broken) => none
      | (out, .error .cut) => some out.toList
      | (out, .ok rest) => (members fuel rest).map (out.toList ++ ·)
    else some []

/-- What a file holds, unpacked if it is packed; `none` if it is broken. -/
def unpack? (bytes : List UInt8) : Option (List UInt8) :=
  if isPacked bytes then members bytes.length bytes else some bytes

end GirDoc.Gzip
