/-!
# File name patterns

A star stands for any text, a question mark for any one character, and brackets for one character of a
set, or not of it if the set begins with an exclamation mark. A bracket that is not closed stands for
itself.
-/

namespace GirDoc.Text.Glob

/-- A part of a pattern. -/
inductive Part where
  | one (c : Char)
  | any
  | star
  | oneOf (negated : Bool) (ranges : List (Char × Char))
  deriving Repr, DecidableEq

/-- The ranges of the inside of brackets. A hyphen between two characters makes a range of them. -/
def ranges : List Char → List (Char × Char)
  | a :: '-' :: b :: rest => (a, b) :: ranges rest
  | a :: rest => (a, a) :: ranges rest
  | [] => []

/-- Cuts what follows an opening bracket at the closing one, which is not the first of the set. -/
def set? (cs : List Char) : Option (Bool × List Char × List Char) :=
  let (negated, body) := match cs with
    | '!' :: rest => (true, rest)
    | _ => (false, cs)
  match body with
  | [] => none
  | c :: rest =>
    let inside := rest.takeWhile (· ≠ ']')
    match rest.drop inside.length with
    | [] => none
    | _ :: after => some (negated, c :: inside, after)

/-- Reads a pattern; `fuel` bounds the number of its parts. -/
def partsWithin : (fuel : Nat) → List Char → List Part
  | 0, _ => []
  | _, [] => []
  | fuel + 1, c :: rest =>
    if c = '*' then .star :: partsWithin fuel rest
    else if c = '?' then .any :: partsWithin fuel rest
    else if c = '[' then
      match set? rest with
      | some (negated, inside, after) => .oneOf negated (ranges inside) :: partsWithin fuel after
      | none => .one c :: partsWithin fuel rest
    else .one c :: partsWithin fuel rest

/-- The parts of a pattern. -/
def parts (pattern : String) : List Part :=
  partsWithin pattern.length pattern.toList

/-- Whether a part stands for a character. -/
def Part.covers (p : Part) (c : Char) : Bool :=
  match p with
  | .one d => c = d
  | .any => true
  | .star => false
  | .oneOf negated ranges =>
    (ranges.any fun (lo, hi) => lo ≤ c && c ≤ hi) != negated

/-- Drops the characters that parts without stars stand for. -/
def drop? : List Part → List Char → Option (List Char)
  | [], cs => some cs
  | _ :: _, [] => none
  | p :: ps, c :: cs => if p.covers c then drop? ps cs else none

/-- Drops all up to the first characters that parts without stars stand for, and these. -/
def dropThrough? (ps : List Part) : List Char → Option (List Char)
  | [] => drop? ps []
  | c :: cs => match drop? ps (c :: cs) with
    | some rest => some rest
    | none => dropThrough? ps cs

/-- The parts between the stars of a pattern; there is one run more than there are stars. -/
def runs : List Part → List (List Part)
  | [] => [[]]
  | p :: ps => match runs ps with
    | [] => [[]]
    | run :: rest => if p = .star then [] :: run :: rest else (p :: run) :: rest

/-- Whether runs with stars in front of each stand for a text. It is enough to look for the first place of
each run, and for the last run at the end. -/
def coversFrom : List (List Part) → List Char → Bool
  | [], _ => true
  | [run], cs => run.length ≤ cs.length && drop? run (cs.drop (cs.length - run.length)) = some []
  | run :: rest, cs => match dropThrough? run cs with
    | some cs => coversFrom rest cs
    | none => false

/-- Whether a pattern stands for a text. -/
def covers (pattern text : String) : Bool :=
  match runs (parts pattern) with
  | [] => false
  | [run] => drop? run text.toList = some []
  | run :: rest => match drop? run text.toList with
    | some cs => coversFrom rest cs
    | none => false

end GirDoc.Text.Glob
