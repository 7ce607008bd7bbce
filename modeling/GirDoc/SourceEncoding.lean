import GirDoc.SourceEncoding.Names

/-!
# Encodings of sources

A source is UTF-8 unless one of its first two lines is a remark that names its encoding. The second line
counts only if the first is empty or a remark too.
-/

namespace GirDoc.SourceEncoding

/-! ## Remarks that name an encoding -/

/-- White space inside a line. -/
def isLineBlank (c : Char) : Bool := c = ' ' || c = '\t' || c = '\x0c'

/-- The characters of the name of an encoding. -/
def isNamePart (c : Char) : Bool := c.isAlphanum || c = '_' || c = '-' || c = '.'

/-- The name that follows the word `coding` and a colon or an equals sign. -/
def nameAfterWord? : List Char → Option (List Char)
  | [] => none
  | c :: rest =>
    let here := match (c :: rest) with
      | 'c' :: 'o' :: 'd' :: 'i' :: 'n' :: 'g' :: mark :: rest =>
        if mark = ':' || mark = '=' then
          (rest.dropWhile fun c => c = ' ' || c = '\t').takeWhile isNamePart
        else []
      | _ => []
    if here.isEmpty then nameAfterWord? rest else some here

/-- The name of an encoding in a line, if it is a remark that gives one. -/
def named? (line : List Char) : Option (List Char) :=
  match line.dropWhile isLineBlank with
  | '#' :: rest => nameAfterWord? (rest.takeWhile (· ≠ '\n'))
  | _ => none

/-- Whether a line is empty or a remark. -/
def saysNothing (line : List Char) : Bool :=
  match line.dropWhile isLineBlank with
  | [] | '#' :: _ | '\n' :: _ | '\r' :: _ => true
  | _ => false

/-- The one name of an encoding of which many spellings are used. -/
def usualName (name : List Char) : List Char :=
  let start := String.ofList ((name.take 12).map fun c => if c = '_' then '-' else c.toLower)
  let isOne (names : List String) : Bool :=
    names.any fun n => start = n || start.startsWith (n ++ "-")
  if isOne ["utf-8"] then "utf-8".toList
  else if isOne ["latin-1", "iso-8859-1", "iso-latin-1"] then "iso-8859-1".toList
  else name

/-- The encoding that a line names. -/
def ofLine (hasMark : Bool) (line : List UInt8) : Except Failure (Option Codec) :=
  match Text.Utf8.decodeChars? line with
  | none => .error .notText
  | some cs => match named? cs with
    | none => .ok none
    | some name =>
      let name := usualName name
      match ofName? name with
      | none => .error .notText
      | some codec =>
        if hasMark && name ≠ "utf-8".toList then .error .notText else .ok (some codec)

/-- The first line of some bytes and the rest. -/
def cutLine (bytes : List UInt8) : List UInt8 × List UInt8 :=
  let line := bytes.takeWhile (· ≠ 10)
  let rest := bytes.drop line.length
  (line ++ rest.take 1, rest.drop 1)

/-- The encoding of sources that name none. -/
def unnamed : Codec := .text .utf8

/-- The encoding of a source without its byte order mark. -/
def detect (hasMark : Bool) (bytes : List UInt8) : Except Failure Codec := do
  let (first, rest) := cutLine bytes
  match ← ofLine hasMark first with
  | some codec => return codec
  | none =>
    let isQuiet := match Text.Utf8.decodeChars? first with
      | some cs => saysNothing cs
      | none => false
    if !isQuiet then return unnamed
    match ← ofLine hasMark (cutLine rest).1 with
    | some codec => return codec
    | none => return unnamed

/-- The text of a source. -/
def decode (bytes : List UInt8) : Except Failure (List Char) := do
  let (hasMark, bytes) := match bytes with
    | 0xEF :: 0xBB :: 0xBF :: rest => (true, rest)
    | _ => (false, bytes)
  (← detect hasMark bytes) bytes

end GirDoc.SourceEncoding
