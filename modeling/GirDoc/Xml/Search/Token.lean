import GirDoc.Text.Blank

/-!
# Words of searches

A search is written as a text of marks, quoted texts, names and blanks. A name runs up to the next mark that
divides, so that points, stars, colons and quotes may stand inside it; and it may begin with a namespace in
braces.
-/

namespace GirDoc.Xml.Search

/-- A word of a search. -/
inductive Token where
  | mark (text : String)
  | quoted (text : String)
  | name (text : String)
  | blank
  deriving Repr, DecidableEq

/-- The marks of a search. One that begins another comes after it. -/
def marks : List String := ["::", "//", "..", "()", "/", ".", "*", ":", "[", "]", "(", ")", "@", "="]

/-- The characters of names. -/
def isNameChar (c : Char) : Bool := !Text.isBlank c && !"/[]()@=".toList.contains c

/-- Reads a quoted text with its quotes. -/
def quoted? : List Char → Option (Token × List Char)
  | q :: rest =>
    if q = '\x27' || q = '\x22' then
      match rest.dropWhile (· ≠ q) with
      | _ :: more => some (.quoted (String.ofList (rest.takeWhile (· ≠ q))), more)
      | [] => none
    else none
  | [] => none

/-- Reads a mark. -/
def mark? (cs : List Char) : Option (Token × List Char) := do
  let m ← marks.find? fun m => m.toList.isPrefixOf cs
  some (.mark m, cs.drop m.length)

/-- The length of the namespace in braces at the front, if something follows it. -/
def braced (cs : List Char) : Nat :=
  match cs with
  | '\x7b' :: rest =>
    let inside := rest.takeWhile (· ≠ '\x7d')
    let follows := (rest.drop (inside.length + 1)).head?.any isNameChar
    if inside.isEmpty || !follows then 0 else inside.length + 2
  | _ => 0

/-- Reads a name. -/
def name? (cs : List Char) : Option (Token × List Char) :=
  let lead := braced cs
  let more := cs.drop lead
  match more.takeWhile isNameChar with
  | [] => none
  | plain => some (.name (String.ofList (cs.take lead ++ plain)), more.drop plain.length)

/-- Reads a word, or passes over a character that begins none. -/
def next (cs : List Char) : Option Token × List Char :=
  match (quoted? cs).or ((mark? cs).or (name? cs)) with
  | some (t, rest) => (some t, rest)
  | none =>
    if cs.head?.any Text.isBlank then (some .blank, cs.dropWhile Text.isBlank) else (none, cs.drop 1)

/-- The words of a search; there are no more of them than `fuel`, the number of characters. -/
def tokensFrom : (fuel : Nat) → List Char → List Token
  | 0, _ => []
  | _, [] => []
  | fuel + 1, cs =>
    let (t, rest) := next cs
    t.toList ++ tokensFrom fuel rest

/-- The words of a search. -/
def tokens (text : String) : List Token := tokensFrom text.length text.toList

end GirDoc.Xml.Search
