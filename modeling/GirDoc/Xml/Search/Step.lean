import GirDoc.Xml.Character
import GirDoc.Xml.Search.Token

/-!
# Steps of searches

A search goes on in steps: to children, to all elements below, to the element around, or to those elements
that meet a condition in brackets.
-/

namespace GirDoc.Xml.Search

/-- Why a search has no result. -/
inductive Failure where
  /-- It is not written as a search. -/
  | malformed
  /-- A mark stands where a step begins. -/
  | unknownStep
  /-- A name is empty, or none. -/
  | invalidName
  deriving Repr, DecidableEq

/-- A condition on elements. -/
inductive Condition where
  /-- They have an attribute. -/
  | has (key : String)
  /-- They have an attribute of this value. -/
  | hasValue (key value : String)
  /-- They have a child of a name. -/
  | hasChild (name : String)
  /-- They have a child of a name and of this text. -/
  | hasChildText (name value : String)
  /-- They have this text. -/
  | hasText (value : String)
  /-- They are at a place among those of one name; from the end, if it is negative. -/
  | isAt (index : Int)
  deriving Repr, DecidableEq

/-- A step of a search. -/
inductive Step where
  | child (name : String)
  | anyChild
  | stay
  | around
  /-- To all elements below, of a name if one is given. -/
  | below (name : Option String)
  | only (condition : Condition)
  deriving Repr, DecidableEq

/-! ## Numbers -/

/-- Reads digits, with single underscores between them. -/
def digits? : List Char → Option Nat
  | cs => cs.foldl (fun n c => n.bind fun (n, isLast) =>
      if c.isDigit then some (n * 10 + (c.toNat - 48), true)
      else if c = '_' && isLast then some (n, false)
      else none) (some (0, false)) |>.bind fun (n, isLast) => if isLast then some n else none

/-- Reads a whole number. -/
def int? (s : String) : Option Int :=
  match s.toList with
  | '-' :: cs => (digits? cs).map fun n => -(n : Int)
  | '+' :: cs => (digits? cs).map fun n => (n : Int)
  | cs => (digits? cs).map fun n => (n : Int)

/-- Whether a word is written as a whole number, with no sign but a hyphen. -/
def isNumber (s : String) : Bool :=
  let cs := match s.toList with
    | '-' :: cs => cs
    | cs => cs
  !cs.isEmpty && cs.all Char.isDigit

/-! ## Conditions -/

/-- The form of a condition: its marks, with a hyphen for each name and a quote for each quoted text. -/
def formOf : List Token → String
  | [] => ""
  | .mark m :: rest => m ++ formOf rest
  | .quoted _ :: rest => "'" ++ formOf rest
  | .name _ :: rest => "-" ++ formOf rest
  | .blank :: rest => formOf rest

/-- The texts of the words of a condition; a mark has none. -/
def valuesOf (ts : List Token) : List String :=
  ts.filterMap fun
    | .mark _ => some ""
    | .quoted s | .name s => some s
    | .blank => none

/-- Reads a place among elements, which are counted from one. -/
def placeCondition (s : String) : Except Failure Condition :=
  match int? s with
  | some n => if n < 1 then .error .malformed else .ok (.isAt (n - 1))
  | none => .error .malformed

/-- Reads what stands between brackets. -/
def condition (ts : List Token) : Except Failure Condition :=
  let values := valuesOf ts
  let first := values.headD ""
  let last := values.getLastD ""
  match formOf ts with
  | "@-" => .ok (.has (values.getD 1 ""))
  | "@-='" => .ok (.hasValue (values.getD 1 "") last)
  | "-" => if isNumber first then placeCondition first else .ok (.hasChild first)
  | ".='" => .ok (.hasText last)
  | "-='" => if isNumber first then .error .malformed else .ok (.hasChildText first last)
  | "-()" => if first = "last" then .ok (.isAt (-1)) else .error .malformed
  | "-()-" =>
    if first = "last" then
      match int? (values.getD 2 "") with
      | some n => .ok (.isAt (n - 1))
      | none => .error .malformed
    else .error .malformed
  | _ => .error .malformed

/-! ## Steps -/

/-- Whether a word names its namespace by letters, for which nothing stands. -/
def isLettered : Token → Bool
  | .name s => s.toList.contains ':' && !s.startsWith "\x7b"
  | _ => false

/-- Cuts at the bracket that ends a condition. -/
def cutCondition : List Token → Except Failure (List Token × List Token)
  | [] => .error .malformed
  | t :: rest =>
    if isLettered t then .error .malformed
    else if t = .mark "]" then .ok ([], rest)
    else (cutCondition rest).map fun (inside, rest) => (t :: inside, rest)

/-- Reads a step and what follows it. -/
def step (t : Token) (rest : List Token) : Except Failure (Step × List Token) :=
  if isLettered t then .error .malformed
  else match t with
    | .name s => .ok (.child s, rest)
    | .blank => .ok (.child "", rest)
    | .mark "*" => .ok (.anyChild, rest)
    | .mark "." => .ok (.stay, rest)
    | .mark ".." => .ok (.around, rest)
    | .mark "//" => match rest with
      | [] => .error .malformed
      | next :: rest =>
        if isLettered next then .error .malformed
        else match next with
          | .mark "*" => .ok (.below none, rest)
          | .name s => .ok (.below (some s), rest)
          | .blank => .ok (.below (some ""), rest)
          | _ => .error .malformed
    | .mark "[" => do
      let (inside, rest) ← cutCondition rest
      return (.only (← condition inside), rest)
    | .mark _ | .quoted _ => .error .unknownStep

/-- Passes over the slash between two steps. -/
def dropSlash : List Token → List Token
  | .mark "/" :: rest => rest
  | ts => ts

/-- Reads the steps of a search; there are no more of them than `fuel`, the number of words. -/
def stepsFrom : (fuel : Nat) → List Token → Except Failure (List Step)
  | 0, _ => .ok []
  | _, [] => .ok []
  | fuel + 1, t :: rest => do
    let (s, rest) ← step t rest
    return s :: (← stepsFrom fuel (dropSlash rest))

/-- The steps of a search. -/
def steps (text : String) : Except Failure (List Step) :=
  let ts := tokens text
  if ts.isEmpty then .error .malformed else stepsFrom ts.length ts

/-! ## Names -/

/-- What the name of an element is to be. -/
structure NameTest where
  /-- Its namespace, empty for none; any, if none is given. -/
  space : Option String := none
  /-- The rest of it; anything, if none is given. -/
  plain : Option String := none
  deriving Repr, DecidableEq

/-- Cuts a name behind its namespace in braces. -/
def cutSpace? (name : String) : Option (String × String) :=
  match name.toList with
  | '\x7b' :: rest => (Text.cutChars '\x7d' rest).map fun (space, plain) =>
      (String.ofList space, String.ofList plain)
  | _ => none

/-- The namespace of a name, and the rest of it, which is not empty. -/
def nameParts (name : String) : Except Failure (Option String × String) :=
  if !name.toList.all Xml.isAllowed then .error .invalidName
  else if name.startsWith "\x7b" then
    match cutSpace? name with
    | some (space, plain) => if plain.isEmpty then .error .invalidName else .ok (some space, plain)
    | none => .error .invalidName
  else if name.isEmpty then .error .invalidName
  else .ok (none, name)

/-- What a name in a search asks of the names of elements. -/
def nameTest (name : String) : Except Failure NameTest := do
  let (space, plain) ← nameParts name
  let space := match space with
    | none => some ""
    | some "*" => none
    | some s => some s
  return { space, plain := if plain = "*" then none else some plain }

/-- Whether the name of an element is as it is to be. -/
def NameTest.holds (t : NameTest) (tag : String) : Bool :=
  let (space, plain) := (cutSpace? tag).getD ("", tag)
  t.space.all (· = space) && t.plain.all (· = plain)

/-- The name by which an attribute is looked up. -/
def attributeKey (name : String) : Except Failure String := do
  match ← nameParts name with
  | (some space, plain) => return if space.isEmpty then plain else name
  | (none, plain) => return plain

end GirDoc.Xml.Search
