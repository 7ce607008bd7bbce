import GirDoc.Text.Charset.Basic
import GirDoc.Text.Charset.Label

/-!
# Codecs of sources

A codec reads the bytes of a source as text, or says why it cannot. Most codecs read text in an encoding; some
need a form that sources do not have.
-/

namespace GirDoc.SourceEncoding

open Text (Charset)

/-- Why a source has no lines. -/
inductive Failure where
  /-- Its bytes spell no text in its encoding, or its encoding is not known. -/
  | notText
  /-- Its bytes do not have the form that its encoding needs. -/
  | badForm
  /-- Its encoding is none of text. -/
  | noEncoding
  deriving Repr, DecidableEq

/-- A way to read the bytes of a source. -/
abbrev Codec := List UInt8 → Except Failure (List Char)

namespace Codec

/-- Text in an encoding. -/
def text (charset : Charset) : Codec := fun bytes =>
  match charset.decode? bytes with
  | some cs => .ok cs
  | none => .error .notText

/-- A way to write bytes as other bytes. -/
def notText : Codec := fun _ => .error .noEncoding

/-- An encoding of no text. -/
def undefined : Codec := fun _ => .error .badForm

/-! ## Codecs that read portion by portion -/

/-- The size of the first portion. -/
def firstPortion : Nat := 4096

/-- The size of the other portions. -/
def laterPortion : Nat := 8192

/-- Bytes in portions of one size. -/
def portionsFrom : (fuel : Nat) → List UInt8 → List (List UInt8)
  | 0, _ => []
  | fuel + 1, bytes =>
    if bytes.isEmpty then [] else bytes.take laterPortion :: portionsFrom fuel (bytes.drop laterPortion)

/-- The portions in which a source is read. -/
def portions (bytes : List UInt8) : List (List UInt8) :=
  let rest := bytes.drop firstPortion
  bytes.take firstPortion :: portionsFrom (rest.length / laterPortion + 1) rest

/-- An encoding whose text begins with a mark. Sources have none, as their first line is one of ASCII; what is
wrong with the first portion is found before. `isCut` tells that bytes may go on in the next portion. -/
def marked (charset : Charset) (isCut : List UInt8 → Bool) : Codec := fun bytes =>
  let d := charset.read (bytes.take firstPortion)
  if d.isWhole || isCut d.rest then .error .badForm else .error .notText

/-- UTF-16 with a mark. -/
def markedUtf16 : Codec :=
  marked (.utf16 false) fun rest =>
    rest.length < 2 || (rest.length < 4 && (Charset.unit? 2 false rest).any Charset.isHigh)

/-- UTF-32 with a mark. -/
def markedUtf32 : Codec := marked (.utf32 false) fun rest => rest.length < 4

/-- Text of ASCII that is read further. -/
def furtherRead (read? : List Char → Option (List Char)) (bytes : List UInt8) : Except Failure (List Char) :=
  match Charset.ascii.decode? bytes with
  | none => .error .notText
  | some cs => match read? cs with
    | some cs => .ok cs
    | none => .error .badForm

/-- Each portion is one text in Punycode. -/
def punycode : Codec := fun bytes =>
  ((portions bytes).mapM (furtherRead Text.Punycode.decode?)).map List.flatten

/-- Labels between full stops, in Punycode or not. -/
def labels : Codec := furtherRead Text.Label.decodeAll?

end Codec

end GirDoc.SourceEncoding
