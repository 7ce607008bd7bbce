import GirDoc.Value.Basic

/-!
# Parts of values

Reading the parts of a value that is expected to have them. What is missing, or of another kind, is
read as the default.
-/

namespace GirDoc.Value

/-- The value of a key; null if there is none. -/
def field (v : Value) (key : String) : Value :=
  match v with
  | dict entries => (entries.lookup key).getD null
  | _ => null

/-- The items of a list. -/
def items : Value → List Value
  | list items => items
  | _ => []

/-- The entries of a dictionary. -/
def entries : Value → List (String × Value)
  | dict entries => entries
  | _ => []

/-- The item at an index; null if there is none. -/
def nth (v : Value) (i : Nat) : Value := (v.items[i]?).getD null

/-- The text that a value is, if it is one. -/
def text? : Value → Option String
  | text s => some s
  | _ => none

/-- The text that a value is, or the default. -/
def textOr (default : String) (v : Value) : String := v.text?.getD default

/-- The whole number that a value is, or the default. -/
def intOr (default : Int) : Value → Int
  | int n => n
  | bool b => if b then 1 else 0
  | _ => default

/-- The natural number that a value is, or zero. -/
def toNat : Value → Nat
  | int n => n.toNat
  | _ => 0

/-- A number read as an unsigned one of 32 bits. -/
def toWord : Value → Nat
  | int n => (n % 4294967296).toNat
  | bool b => b.toNat
  | _ => 0

/-- The texts in a list. -/
def texts (v : Value) : List String := v.items.map (textOr "")

/-- A text, or null for nothing. -/
def ofText? : Option String → Value
  | some s => text s
  | none => null

/-- A natural number. -/
def ofNat (n : Nat) : Value := int n

/-- A list of texts. -/
def ofTexts (list : List String) : Value := .list (list.map text)

/-! ## Depth -/

mutual

/-- How deep values are nested in a value. -/
def depth : Value → Nat
  | list items => depthOfItems items + 1
  | dict entries => depthOfEntries entries + 1
  | _ => 1

/-- The greatest depth of the items of a list. -/
def depthOfItems : List Value → Nat
  | [] => 0
  | v :: rest => max (depth v) (depthOfItems rest)

/-- The greatest depth of the entries of a dictionary. -/
def depthOfEntries : List (String × Value) → Nat
  | [] => 0
  | (_, v) :: rest => max (depth v) (depthOfEntries rest)

end

end GirDoc.Value
