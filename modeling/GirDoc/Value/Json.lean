import GirDoc.Value.Basic

/-!
# Values as JSON

Reading and writing values as JSON. The entries of a dictionary keep their order, and a number that is
no integer is kept as it was written. What is written has ASCII characters only.
-/

namespace GirDoc.Json

/-! ## Reading -/

/-- The characters after leading blanks. -/
def skipBlanks : List Char → List Char
  | c :: rest => if c = ' ' || c = '\n' || c = '\t' || c = '\r' then skipBlanks rest else c :: rest
  | [] => []

/-- The value of a hexadecimal digit. -/
def hexValue (c : Char) : Nat :=
  let n := c.toNat
  if 48 ≤ n && n ≤ 57 then n - 48 else if 97 ≤ n && n ≤ 102 then n - 87 else n - 55

/-- The value of four hexadecimal digits. -/
def unitOf (a b c d : Char) : Nat :=
  ((hexValue a * 16 + hexValue b) * 16 + hexValue c) * 16 + hexValue d

/-- The character that a letter after a backslash stands for. -/
def escaped : Char → Char
  | 'n' => '\n'
  | 't' => '\t'
  | 'r' => '\r'
  | 'b' => Char.ofNat 8
  | 'f' => Char.ofNat 12
  | c => c

/-- Reads a text up to its closing quote, as numbers of characters or of halves of characters, last
first. -/
def readUnits (acc : List Nat) : List Char → Option (List Nat × List Char)
  | [] => none
  | '\x22' :: rest => some (acc, rest)
  | '\\' :: 'u' :: a :: b :: c :: d :: rest => readUnits (unitOf a b c d :: acc) rest
  | '\\' :: c :: rest => readUnits ((escaped c).toNat :: acc) rest
  | c :: rest => readUnits (c.toNat :: acc) rest

/-- Puts characters together, from numbers with the last first; `acc` holds what comes after. A half
without its other half is replaced. -/
def joinUnits (acc : List Char) : List Nat → List Char
  | [] => acc
  | lo :: rest =>
    if 0xDC00 ≤ lo && lo < 0xE000 then
      match rest with
      | hi :: rest =>
        if 0xD800 ≤ hi && hi < 0xDC00 then
          joinUnits (Char.ofNat (0x10000 + (hi - 0xD800) * 0x400 + (lo - 0xDC00)) :: acc) rest
        else joinUnits (Char.ofNat 0xFFFD :: acc) (hi :: rest)
      | [] => Char.ofNat 0xFFFD :: acc
    else if 0xD800 ≤ lo && lo < 0xDC00 then joinUnits (Char.ofNat 0xFFFD :: acc) rest
    else joinUnits (Char.ofNat lo :: acc) rest
termination_by units => units.length

/-- Reads a text after its opening quote. -/
def readText (cs : List Char) : Option (String × List Char) :=
  (readUnits [] cs).map fun (units, rest) => (String.ofList (joinUnits [] units), rest)

/-- Reads a number. -/
def readNumber (cs : List Char) : Option (Value × List Char) :=
  let (digits, rest) :=
    cs.span fun c => c.isDigit || c = '-' || c = '+' || c = '.' || c = 'e' || c = 'E'
  let written := String.ofList digits
  if digits.isEmpty then none
  else match written.toInt? with
    | some n => some (.int n, rest)
    | none => some (.real written, rest)

mutual

/-- Reads a value. -/
def readValue : Nat → List Char → Option (Value × List Char)
  | 0, _ => none
  | fuel + 1, cs =>
    match skipBlanks cs with
    | '\x22' :: rest => (readText rest).map fun (s, rest) => (.text s, rest)
    | '[' :: rest =>
      match skipBlanks rest with
      | ']' :: rest => some (.list [], rest)
      | rest => readItems fuel [] rest
    | '\x7b' :: rest =>
      match skipBlanks rest with
      | '\x7d' :: rest => some (.dict [], rest)
      | rest => readEntries fuel [] rest
    | 't' :: 'r' :: 'u' :: 'e' :: rest => some (.bool true, rest)
    | 'f' :: 'a' :: 'l' :: 's' :: 'e' :: rest => some (.bool false, rest)
    | 'n' :: 'u' :: 'l' :: 'l' :: rest => some (.null, rest)
    | cs => readNumber cs

/-- Reads the items of a list, those before being in `acc`, last first. -/
def readItems : Nat → List Value → List Char → Option (Value × List Char)
  | 0, _, _ => none
  | fuel + 1, acc, cs =>
    match readValue fuel cs with
    | none => none
    | some (v, rest) =>
      match skipBlanks rest with
      | ',' :: rest => readItems fuel (v :: acc) rest
      | ']' :: rest => some (.list (v :: acc).reverse, rest)
      | _ => none

/-- Reads the entries of a dictionary, those before being in `acc`, last first. -/
def readEntries : Nat → List (String × Value) → List Char → Option (Value × List Char)
  | 0, _, _ => none
  | fuel + 1, acc, cs =>
    match skipBlanks cs with
    | '\x22' :: rest =>
      match readText rest with
      | none => none
      | some (key, rest) =>
        match skipBlanks rest with
        | ':' :: rest =>
          match readValue fuel rest with
          | none => none
          | some (v, rest) =>
            match skipBlanks rest with
            | ',' :: rest => readEntries fuel ((key, v) :: acc) rest
            | '\x7d' :: rest => some (.dict (Value.ofPairs ((key, v) :: acc).reverse), rest)
            | _ => none
        | _ => none
    | _ => none

end

/-- Reads a value; what follows it is left. Each step but that into a first item or entry reads a
character, so two steps a character are enough. -/
def read? (s : String) : Option Value :=
  let cs := s.toList
  (readValue (2 * cs.length + 2) cs).map Prod.fst

/-! ## Writing -/

/-- A half of a character by its number. -/
def writeUnit (n : Nat) : String := "\\u" ++ String.ofList (Text.Quoted.hex 4 n)

/-- A character inside a text. -/
def writeChar (c : Char) : String :=
  let n := c.toNat
  if c = '\x22' then "\\\x22"
  else if c = '\\' then "\\\\"
  else if 0x20 ≤ n && n < 0x7F then String.singleton c
  else if n < 0x10000 then writeUnit n
  else writeUnit (0xD800 + (n - 0x10000) / 0x400) ++ writeUnit (0xDC00 + (n - 0x10000) % 0x400)

/-- Writes a text after what is written already. -/
def writeText (acc s : String) : String :=
  s.toList.foldl (fun acc c => acc ++ writeChar c) (acc ++ "\x22") ++ "\x22"

mutual

/-- Writes a value after what is written already. -/
def writeValue (acc : String) : Value → String
  | .null => acc ++ "null"
  | .bool true => acc ++ "true"
  | .bool false => acc ++ "false"
  | .int n => acc ++ toString n
  | .real written => acc ++ written
  | .text s => writeText acc s
  | .list items => writeItems (acc ++ "[") "" items ++ "]"
  | .dict entries => writeEntries (acc ++ "\x7b") "" entries ++ "\x7d"

/-- Writes the items of a list, the first after the separator given. -/
def writeItems (acc separator : String) : List Value → String
  | [] => acc
  | v :: rest => writeItems (writeValue (acc ++ separator) v) ", " rest

/-- Writes the entries of a dictionary, the first after the separator given. -/
def writeEntries (acc separator : String) : List (String × Value) → String
  | [] => acc
  | (key, v) :: rest =>
    writeEntries (writeValue (writeText (acc ++ separator) key ++ ": ") v) ", " rest

end

/-- A value as JSON. -/
def write (v : Value) : String := writeValue "" v

end GirDoc.Json
