import GirDoc.Xml.Reading

/-!
# References

A reference stands for a character or for an entity. In values of attributes and of entities references are
replaced by what they stand for.
-/

namespace GirDoc.Xml

/-! ## Characters -/

/-- The value of a digit; other characters have none below sixteen. -/
def digitValue (c : Char) : Nat :=
  if c.isDigit then c.toNat - 48
  else if 'a' ≤ c && c ≤ 'f' then c.toNat - 87
  else if 'A' ≤ c && c ≤ 'F' then c.toNat - 55
  else 99

/-- The character with a number, if a document may hold it. -/
def charOf? (n : Nat) : Option Char :=
  if n < 0xD800 || (0xDFFF < n && n < 0x110000) then
    let c := Char.ofNat n
    if isAllowed c then some c else none
  else none

/-- Reads a character given by number, after its two marks, and what follows. -/
def numberedChar (cs : List Char) : Option Char × List Char :=
  let (base, cs) := match cs with
    | 'x' :: rest => (16, rest)
    | _ => (10, cs)
  let isDigit (c : Char) : Bool := digitValue c < base
  let number := (cs.takeWhile isDigit).foldl (fun n c => min (n * base + digitValue c) 0x110000) 0
  match cs.dropWhile isDigit with
  | ';' :: rest => (charOf? number, rest)
  | rest => (none, rest)

/-- The entities that need no declaration. -/
def fixedEntities : List (List Char × Char) :=
  [("lt".toList, '<'), ("gt".toList, '>'), ("amp".toList, '&'), ("quot".toList, '\x22'),
    ("apos".toList, '\x27')]

/-! ## Entities -/

/-- What a name stands for. -/
inductive Meaning where
  | char (c : Char)
  | text (cs : List Char)

/-- What an entity stands for. What stands outside of the document is never looked for. -/
def meaning? (inValue : Bool) (name : List Char) : Read (Option Meaning) := do
  match fixedEntities.lookup name with
  | some c => return some (.char c)
  | none =>
    let st ← get
    match st.entities.lookup name with
    | none =>
      found (if st.isComplete then .fatal else .error)
      return none
    | some (.inside text) =>
      if inValue && text.contains '<' then fatal
      return some (.text text)
    | some _ =>
      fatal
      return none

/-- Which references of a text are replaced besides those to characters. -/
inductive Replaced where
  | entities | parameters
  deriving DecidableEq

/-- The mark of the references that are replaced. -/
def Replaced.mark : Replaced → Char
  | entities => '&'
  | parameters => '%'

/-- Reads a text by itself, and gives what `read` leaves of it. -/
def remainder (text address : List Char) (read : Read Unit) : Read (List Char) := do
  let layers := (← get).layers
  modify fun st => { st with layers := [{ rest := text, address := some address }] }
  read
  let left ← rest
  modify fun st => { st with layers }
  return left

/-- The text at an address, in which all is allowed. -/
def outsideText (address : List Char) : Read (Option (List Char)) := do
  match (← get).fetch address with
  | none =>
    if !isOnNetwork address then found .warning
    fatal
    return none
  | some bytes => match decode? bytes with
    | none =>
      fatal
      return none
    | some text =>
      let text ← remainder text address do
        if ← acceptDeclaration then entitySettings
      if text.all isAllowed then return some text
      else
        fatal
        return none

/-- What is put in the place of a reference. -/
inductive Replacement where
  | char (c : Char)
  | text (cs : List Char)
  /-- Nothing. -/
  | empty
  /-- Something that cannot be found, so that the text around it has no value. -/
  | missing

/-- What a name stands for in a text whose references are replaced. -/
def Replaced.replacement (which : Replaced) (name : List Char) : Read Replacement := do
  match which with
  | entities =>
    match ← meaning? true name with
    | some (.char c) => return .char c
    | some (.text text) => return .text text
    | none => return .empty
  | parameters =>
    let st ← get
    match st.parameters.lookup name with
    | none =>
      found (if st.isComplete then .fatal else .warning)
      return .empty
    | some (.inside text) => return .text text
    | some (.outside (some address)) => return ((← outsideText address).map .text).getD .missing
    | some _ => return .missing

/-- Replaces the references of a text; `deeper` does so in what they stand for. -/
def expandWith (which : Replaced) (deeper : List Char → List Char → Read (Option (List Char))) :
    (fuel : Nat) → List Char → List Char → Read (Option (List Char))
  | 0, _, out => return some out.reverse
  | _, [], out => return some out.reverse
  | fuel + 1, c :: cs, out => do
    match c, cs with
    | '&', '#' :: more =>
      match numberedChar more with
      | (some c, more) => expandWith which deeper fuel more (c :: out)
      | (none, _) =>
        fatal
        return none
    | c, cs =>
      if c = which.mark then
        match name? cs with
        | some (name, ';' :: more) =>
          match ← which.replacement name with
          | .char c => expandWith which deeper fuel more (c :: out)
          | .text text =>
            countExpanded text.length
            match ← deeper name text with
            | some inside => expandWith which deeper fuel more (inside.reverse ++ out)
            | none => return none
          | .empty => expandWith which deeper fuel more out
          | .missing => return none
        | some (_, more) =>
          fatal
          expandWith which deeper fuel more out
        | none =>
          fatal
          expandWith which deeper fuel cs out
      else expandWith which deeper fuel cs (c :: out)

/-- Replaces the references of a text, so many levels deep; `names` are the entities that it stands for. -/
def expand (which : Replaced) : (levels : Nat) → (names : List (List Char)) → List Char →
    Read (Option (List Char))
  | 0, _, _ => do
    fatal
    return none
  | levels + 1, names, cs =>
    let deeper (name text : List Char) : Read (Option (List Char)) :=
      if names.contains name then haltEndless else expand which levels (name :: names) text
    expandWith which deeper (cs.length + 1) cs []

/-- How many levels of entities may stand for each other from here on. -/
def State.levels (st : State) : Nat := deepest - st.expanding.length

/-! ## Values of attributes -/

/-- The value of an attribute, from its characters in reverse. -/
def closeValue (collapses inSpace : Bool) (out : List Char) : List Char :=
  (if collapses && inSpace then out.dropWhile (· = ' ') else out).reverse

/-- Reads the value of an attribute up to the quote `limit`. White space turns into spaces; those that begin
the value, end it or follow another are dropped if it `collapses`. -/
def valueFrom (limit : Char) (collapses : Bool) : (fuel : Nat) → List Char → Bool → Read (List Char)
  | 0, out, _ => return out.reverse
  | fuel + 1, out, inSpace => do
    match ← rest with
    | [] =>
      fatal
      return closeValue collapses inSpace out
    | c :: more =>
      if c = limit then
        goOn more
        return closeValue collapses inSpace out
      else if c = '<' || !isAllowed c then
        fatal
        return closeValue collapses inSpace out
      else if c = '&' then
        match more with
        | '#' :: more =>
          let (c?, more) := numberedChar more
          goOn more
          match c? with
          | some c => valueFrom limit collapses fuel (c :: out) false
          | none =>
            fatal
            valueFrom limit collapses fuel out false
        | _ =>
          goOn more
          match ← takeName with
          | none =>
            fatal
            valueFrom limit collapses fuel out false
          | some name =>
            if !(← accept ";") then
              fatal
              valueFrom limit collapses fuel out false
            else match ← meaning? true name with
              | some (.char c) => valueFrom limit collapses fuel (c :: out) false
              | some (.text text) =>
                countExpanded text.length
                let st ← get
                let inside ← expand .entities st.levels (name :: st.expanding) text
                let inside := (inside.getD []).map fun c => if isSpace c then ' ' else c
                valueFrom limit collapses fuel (inside.reverse ++ out) false
              | none => valueFrom limit collapses fuel out false
      else
        goOn more
        if isSpace c then
          if collapses && (inSpace || out.isEmpty) then
            valueFrom limit collapses fuel out (inSpace || !out.isEmpty)
          else valueFrom limit collapses fuel (' ' :: out) true
        else valueFrom limit collapses fuel (c :: out) false

/-- Reads the value of an attribute between quotes. -/
def attributeValue (collapses : Bool) : Read (Option (List Char)) := do
  match ← rest with
  | q :: more =>
    if q = '\x22' || q = '\x27' then
      goOn more
      return some (← valueFrom q collapses (← get).steps [] false)
    else
      fatal
      return none
  | [] =>
    fatal
    return none

end GirDoc.Xml
