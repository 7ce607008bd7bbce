/-!
# Addresses

An address names a namespace, or tells where an entity outside of a document is found. It has up to five
parts, each but the path with a mark of its own:

  scheme : // authority path ? query # fragment
-/

namespace GirDoc.Xml

/-- The parts of an address, as they are written. -/
structure Uri where
  scheme : Option (List Char) := none
  authority : Option (List Char) := none
  path : List Char := []
  query : Option (List Char) := none
  fragment : Option (List Char) := none
  deriving Repr, DecidableEq

namespace Uri

/-- Digits in base sixteen. -/
def isHex (c : Char) : Bool :=
  c.isDigit || ('a' ≤ c && c ≤ 'f') || ('A' ≤ c && c ≤ 'F')

/-- Characters that never divide. -/
def isPlain (c : Char) : Bool := c.isAlphanum || "-._~!$&'()*+,;=".toList.contains c

/-- Characters of a part of a path. -/
def isPathChar (c : Char) : Bool := isPlain c || c = ':' || c = '@'

/-- Characters of a path. -/
def isPathOrSlash (c : Char) : Bool := isPathChar c || c = '/'

/-- Drops the characters that fit; a percent sign with two digits always does. -/
def dropRun (fits : Char → Bool) : List Char → List Char
  | '%' :: a :: b :: rest =>
    if isHex a && isHex b then dropRun fits rest else '%' :: a :: b :: rest
  | c :: rest => if fits c then dropRun fits rest else c :: rest
  | [] => []

/-- What stands before an ending. -/
def before (cs rest : List Char) : List Char := cs.take (cs.length - rest.length)

/-- Drops the characters that fit, of which there is one at least. -/
def dropSome? (fits : Char → Bool) (cs : List Char) : Option (List Char) :=
  let rest := dropRun fits cs
  if rest.length < cs.length then some rest else none

/-- Reads a number from 0 to 255. -/
def octet? : List Char → Option (List Char)
  | a :: b :: c :: rest =>
    if !a.isDigit then none
    else if !b.isDigit then some (b :: c :: rest)
    else if !c.isDigit then if a = '0' then none else some (c :: rest)
    else if a = '1' || (a = '2' && b ≤ '5') then some rest
    else none
  | [a, b] =>
    if !a.isDigit then none
    else if !b.isDigit then some [b]
    else if a = '0' then none else some []
  | [a] => if a.isDigit then some [] else none
  | [] => none

/-- Reads four numbers with points between them. -/
def dotted? (cs : List Char) : Option (List Char) := do
  let '.' :: cs ← octet? cs | none
  let '.' :: cs ← octet? cs | none
  let '.' :: cs ← octet? cs | none
  octet? cs

/-- Reads the name of a host, which may be empty. -/
def host? : List Char → Option (List Char)
  | '[' :: rest => match rest.dropWhile (· ≠ ']') with
    | _ :: rest => some rest
    | [] => none
  | cs => some ((dotted? cs).getD (dropRun isPlain cs))

/-- Reads the number that may follow a host. -/
def hostNumber? (cs : List Char) : Option (List Char) :=
  let digits := cs.takeWhile Char.isDigit
  let number := digits.foldl (fun n c => n * 10 + (c.toNat - 48)) 0
  if digits.isEmpty || 2147483647 < number then none else some (cs.dropWhile Char.isDigit)

/-- Reads who and where: the part after two slashes. -/
def authority? (cs : List Char) : Option (List Char) := do
  let cs := match dropRun (fun c => isPlain c || c = ':') cs with
    | '@' :: rest => rest
    | _ => cs
  match ← host? cs with
  | ':' :: rest => hostNumber? rest
  | rest => some rest

/-- Reads a path that is empty or begins with a slash. -/
def slashPath (cs : List Char) : List Char :=
  match cs with
  | '/' :: _ => dropRun isPathOrSlash cs
  | _ => cs

/-- Reads a path without authority; `first` are the characters of its first part. -/
def path? (first : Char → Bool) : List Char → Option (List Char)
  | '/' :: rest => some (match dropSome? isPathChar rest with
    | some rest => slashPath rest
    | none => rest)
  | c :: rest =>
    if isPathChar c || (dropSome? (fun _ => false) (c :: rest)).isSome then
      (dropSome? first (c :: rest)).map slashPath
    else some (c :: rest)
  | [] => some []

/-- Reads authority and path, and gives what follows them. -/
def place? (first : Char → Bool) (cs : List Char) : Option (Uri × List Char) :=
  match cs with
  | '/' :: '/' :: rest => do
    let after ← authority? rest
    let more := slashPath after
    some ({ authority := some (before rest after), path := before after more }, more)
  | cs => (path? first cs).map fun more => ({ path := before cs more }, more)

/-- Reads what a question mark begins. -/
def takeQuery (uri : Uri) (cs : List Char) : Uri × List Char :=
  match cs with
  | '?' :: rest =>
    let more := dropRun (fun c => isPathOrSlash c || c = '?') rest
    ({ uri with query := some (before rest more) }, more)
  | cs => (uri, cs)

/-- Reads to the end of an address after its path. -/
def ends? (uri : Uri) (cs : List Char) : Option Uri :=
  match takeQuery uri cs with
  | (uri, []) => some uri
  | (uri, '#' :: rest) =>
    let inside (c : Char) : Bool := isPathOrSlash c || c = '?' || c = '[' || c = ']'
    if (dropRun inside rest).isEmpty then some { uri with fragment := some rest } else none
  | _ => none

/-- Reads an address with a scheme. -/
def absolute? (cs : List Char) : Option Uri := do
  let c :: _ := cs | none
  if !c.isAlpha then none
  let more := cs.dropWhile (fun c => c.isAlphanum || c = '+' || c = '-' || c = '.')
  let ':' :: rest := more | none
  let (uri, rest) ← place? isPathChar rest
  ends? { uri with scheme := some (before cs more) } rest

/-- Reads an address; `none` if it is not well formed. -/
def read? (text : List Char) : Option Uri :=
  match absolute? text with
  | some uri => some uri
  | none => (place? (fun c => isPathChar c && c ≠ ':') text).bind fun (uri, rest) => ends? uri rest

/-- Whether an address names its scheme. -/
def isAbsolute (u : Uri) : Bool := u.scheme.isSome

/-- Whether an address points into a resource. -/
def hasFragment (u : Uri) : Bool := u.fragment.isSome

end Uri

end GirDoc.Xml
