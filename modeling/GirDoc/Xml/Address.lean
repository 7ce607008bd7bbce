import GirDoc.Text.Split
import GirDoc.Xml.Uri

/-!
# Relative addresses

An address in a document is seen from where the document is: the last part of the path of the document gives
way to the address, and parts that lead up again are taken out. Paths are bytes; in an address other bytes
than the usual ones are written with a percent sign and two digits.
-/

namespace GirDoc.Xml.Uri

/-! ## Escapes -/

/-- The value of a digit to the base sixteen. -/
def hexValue? (b : UInt8) : Option Nat :=
  let n := b.toNat
  if 48 ≤ n && n ≤ 57 then some (n - 48)
  else if 65 ≤ n && n ≤ 70 then some (n - 55)
  else if 97 ≤ n && n ≤ 102 then some (n - 87)
  else none

/-- Puts bytes in the place of their escapes. -/
def unescapeBytes : List UInt8 → List UInt8
  | 37 :: a :: b :: rest => match hexValue? a, hexValue? b with
    | some x, some y => UInt8.ofNat (x * 16 + y) :: unescapeBytes rest
    | _, _ => 37 :: unescapeBytes (a :: b :: rest)
  | b :: rest => b :: unescapeBytes rest
  | [] => []
termination_by bs => bs.length

/-- The bytes that a path stands for. A byte zero ends it. -/
def unescape (bytes : List UInt8) : List UInt8 := (unescapeBytes bytes).takeWhile (· ≠ 0)

/-- A digit to the base sixteen. -/
def hexDigit (n : Nat) : Char := Char.ofNat (if n < 10 then 48 + n else 55 + n)

/-- The characters of a path that are written as they are. -/
def isWrittenPlain (c : Char) : Bool := c.isAlphanum || "-_.!~*'()/;@&=+$,".toList.contains c

/-- Writes a byte of a path. -/
def writeByte (b : UInt8) : List Char :=
  let c := Char.ofNat b.toNat
  if isWrittenPlain c then [c] else ['%', hexDigit (b.toNat / 16), hexDigit (b.toNat % 16)]

/-! ## Paths -/

/-- A slash. -/
def slash : UInt8 := 47

/-- The part of a path that leads to the same place. -/
def here : List UInt8 := [46]

/-- The part of a path that leads up. -/
def up : List UInt8 := [46, 46]

/-- Goes on with a part of a path; `kept` are the parts so far, last one first. -/
def step (kept : List (List UInt8)) (part : List UInt8) : List (List UInt8) :=
  match kept with
  | last :: rest => if part = up && last ≠ up then rest else part :: kept
  | [] => [part]

/-- Takes out the parts of a path that lead nowhere. Above the top there is nothing. -/
def normalize (path : List UInt8) : List UInt8 :=
  let lead := path.takeWhile (· = slash)
  let parts := Text.splitChars slash (path.dropWhile (· = slash))
  let inner := parts.dropLast.filter fun part => !part.isEmpty && part ≠ here
  let kept := (inner.foldl step []).reverse
  let last := parts.getLast?.getD []
  let kept := if last = here then kept ++ [[]]
    else if last = up && kept.getLast?.any (· ≠ up) then kept.dropLast ++ [[]]
    else kept ++ [last]
  let kept := if lead.isEmpty then kept else kept.dropWhile (· = up)
  lead ++ [slash].intercalate kept

/-- The path up to its last slash. -/
def folder (path : List UInt8) : List UInt8 := (path.reverse.dropWhile (· ≠ slash)).reverse

/-! ## Addresses -/

/-- The bytes of the path of an address. -/
def pathBytes (u : Uri) : List UInt8 := unescape (String.ofList u.path).toUTF8.toList

/-- Writes an address with a path. -/
def write (u : Uri) (path : List UInt8) : List Char :=
  (u.scheme.elim [] (· ++ [':'])) ++ (u.authority.elim [] fun a => '/' :: '/' :: a)
    ++ path.flatMap writeByte ++ (u.query.elim [] ('?' :: ·))

/-- An address without scheme, seen from the place of a document. -/
def from_ (base ref : Uri) : List Char :=
  let seen : Uri := { scheme := base.scheme, authority := base.authority, query := ref.query }
  if ref.authority.isSome then
    { ref with scheme := base.scheme }.write ref.pathBytes
  else if ref.path.isEmpty then
    { seen with query := ref.query.or base.query }.write base.pathBytes
  else if ref.path.head? = some '/' then seen.write ref.pathBytes
  else seen.write (normalize (folder base.pathBytes ++ ref.pathBytes))

/-- An address in a document, seen from the address of the document; `none` if it is not well formed. Where
the address of the document is not well formed, the other one stands by itself. -/
def resolve? (base address : List Char) : Option (List Char) :=
  if address.isEmpty then (read? base).map fun base => base.write base.pathBytes
  else match read? address with
    | none => none
    | some ref =>
      if ref.isAbsolute then some address
      else match read? base with
        | none => some (ref.write ref.pathBytes)
        | some base => some (from_ base ref)

end GirDoc.Xml.Uri
