import GirDoc.Xml.Character
import GirDoc.Xml.Encoding.Names

/-!
# Encodings of documents

A document is UTF-8 unless its first bytes or its declaration say otherwise. Its first bytes count for more
than its declaration.
-/

namespace GirDoc.Xml

open Text (Charset)

/-! ## Which encoding -/

/-- Reads `name="value"` after white space. -/
def writtenSetting? (name : String) (cs : List Char) : Option (List Char × List Char) := do
  let rest ← after? name.toList (cs.dropWhile isSpace)
  let rest ← after? ['='] (rest.dropWhile isSpace)
  match rest.dropWhile isSpace with
  | q :: rest =>
    if q = '\x22' || q = '\x27' then
      some (rest.takeWhile (· ≠ q), (rest.dropWhile (· ≠ q)).drop 1)
    else none
  | [] => none

/-- The name of the encoding in the declaration of a document. -/
def declaredEncoding? (cs : List Char) : Option (List Char) := do
  let rest ← after? "<?xml".toList cs
  if !rest.head?.any isSpace then none
  let rest := ((writtenSetting? "version" rest).map (·.2)).getD rest
  let (encoding, _) ← writtenSetting? "encoding" rest
  some encoding

/-- The encoding that the first bytes of a document tell, with the bytes behind a mark. -/
def toldEncoding? : List UInt8 → Option (Encoding × List UInt8)
  | 0xEF :: 0xBB :: 0xBF :: rest => some (.utf8, rest)
  | 0xFE :: 0xFF :: rest => some (.converted (.utf16 true), rest)
  | 0xFF :: 0xFE :: rest => some (.converted (.utf16 false), rest)
  | bytes@(0x00 :: 0x3C :: 0x00 :: 0x3F :: _) => some (.converted (.utf16 true), bytes)
  | bytes@(0x3C :: 0x00 :: 0x3F :: 0x00 :: _) => some (.converted (.utf16 false), bytes)
  | bytes@(0x00 :: 0x00 :: 0x00 :: 0x3C :: _) => some (.converted (.utf32 true), bytes)
  | _ => none

/-- The encoding of a document, with the bytes behind a mark; `none` if it names one that is not known. -/
def encodingOf? (bytes : List UInt8) : Option (Encoding × List UInt8) :=
  match toldEncoding? bytes with
  | some told => some told
  | none =>
    let start := (bytes.takeWhile (· ≠ 62)).map fun b => Char.ofNat b.toNat
    match declaredEncoding? start with
    | none => some (.utf8, bytes)
    | some name => (encodingNamed? name).map (·, bytes)

/-! ## Conversion -/

/-- Bytes that may complete a character. -/
def completions : List (List UInt8) :=
  (List.range 256).flatMap fun n =>
    let b := n.toUInt8
    [[b], [b, 0x30], [b, 0xA1], [0x30, b]]

/-- Whether bytes are the beginning of those of a character. -/
def isCut (charset : Charset) (bytes : List UInt8) : Bool :=
  (bytes.take 4).length < 4 && completions.any fun more => (charset.read (bytes ++ more)).isWhole

/-- The characters of a document. A character that is cut off at the end of a converted one is passed over. -/
def Encoding.read (bytes : List UInt8) : Encoding → Text.Decoded
  | .utf8 => Charset.utf8.read bytes
  | .converted charset =>
    let d := charset.read bytes
    { d with isWhole := d.isWhole || d.rest.isEmpty || isCut charset d.rest }

/-- The characters of a document; `none` if its bytes do not fit its encoding. -/
def decode? (bytes : List UInt8) : Option (List Char) := do
  let (encoding, bytes) ← encodingOf? bytes
  let d := encoding.read bytes
  if d.isWhole then some d.chars else none

/-- Reads characters in UTF-8, with something in the place of bytes that stand for nothing. -/
def decodeLooselyFrom : (fuel : Nat) → List UInt8 → List Char
  | 0, _ => []
  | fuel + 1, bytes =>
    match bytes with
    | [] => []
    | _ :: rest => match Text.Utf8.next? bytes with
      | some (c, rest) => c :: decodeLooselyFrom fuel rest
      | none => '�' :: decodeLooselyFrom fuel rest

/-- The characters of a document in UTF-8, with something in the place of bytes that stand for nothing. -/
def decodeLoosely (bytes : List UInt8) : List Char := decodeLooselyFrom bytes.length bytes

/-- The characters of a document as far as they are sound, and what follows them. Text behind a fault in a
converted document is lost. -/
def decodePart (bytes : List UInt8) : List Char × List Char :=
  match encodingOf? bytes with
  | some (.converted charset, bytes) => (((Encoding.converted charset).read bytes).chars, [])
  | some (.utf8, bytes) =>
    let d := Encoding.utf8.read bytes
    (d.chars, decodeLoosely d.rest)
  | none =>
    let d := Encoding.utf8.read bytes
    (d.chars, decodeLoosely d.rest)

end GirDoc.Xml
