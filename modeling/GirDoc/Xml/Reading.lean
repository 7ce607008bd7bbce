import GirDoc.Text.Lines
import GirDoc.Xml.Declaration
import GirDoc.Xml.Encoding

/-!
# Reading markup

White space, comments and instructions, and the parameter entities that may stand among declarations.
-/

namespace GirDoc.Xml

/-! ## Parameter entities -/

/-- Whether an address is one of the network, where nothing is looked for. -/
def isOnNetwork (address : List Char) : Bool :=
  let address := address.map Char.toLower
  (after? "http://".toList address).isSome || (after? "ftp://".toList address).isSome

/-- Goes on with the text at an address; whether there is one. -/
def enterOutside (name address : List Char) : Read Bool := do
  match (← get).fetch address with
  | none =>
    if !isOnNetwork address then found .warning
    return false
  | some bytes =>
    match decode? bytes with
    | some text => enter name (Text.unifyNewlines text) (some address)
    | none =>
      enter name (Text.unifyNewlines (decodeLoosely bytes)) (some address)
      fatal
    if ← acceptDeclaration then entitySettings
    return true

/-- Goes on with what a parameter entity stands for; whether it could be found. -/
def enterEntity (name : List Char) : Entity → Read Bool
  | .inside text => do
    enter name text none
    return true
  | .outside (some address) => enterOutside name address
  | .outside none | .unparsed => return false

/-- Goes on with what a parameter entity stands for. -/
def parameter : Read Unit := do
  skip
  match ← takeName with
  | none => fatal
  | some name =>
    if !(← accept ";") then fatal
    else
      let st ← get
      let isUsed ← match st.parameters.lookup name with
        | none =>
          found (if st.isComplete then .fatal else .warning)
          pure true
        | some entity =>
          if st.layers.any (·.entity == some name) then haltEndless
          enterEntity name entity
      if isUsed then modify fun st => { st with hasParameters := true }

/-- Skips white space; inside a parameter entity also its end, and references to others. -/
def blanksFrom : Nat → Bool → Read Bool
  | 0, any => return any
  | fuel + 1, any => do
    match ← rest with
    | [] =>
      if ← isInParameter then
        leave
        blanksFrom fuel true
      else return any
    | '%' :: more =>
      if more.head?.any (!isSpace ·) then
        parameter
        blanksFrom fuel true
      else return any
    | c :: more =>
      if isSpace c then
        goOn (more.dropWhile isSpace)
        blanksFrom fuel true
      else return any

/-- Skips white space; whether there was any. -/
def blanks : Read Bool := do
  if ← isInParameter then blanksFrom 100000 false else plainBlanks

/-- White space has to stand here. -/
def needBlanks : Read Unit := do expect (← blanks)

/-! ## Comments and instructions -/

/-- Reads to the end of a comment, with the two characters before. The flag tells that it is a proper one. -/
def slowCommentEnd (q r : Char) : List Char → List Char × Bool
  | [] => ([], false)
  | c :: rest =>
    if !isAllowed c then (c :: rest, false)
    else if q = '-' && r = '-' then
      if c = '>' then (rest, true) else ((slowCommentEnd r c rest).1, false)
    else slowCommentEnd r c rest

/-- Reads to the end of a comment from a character past ASCII on. -/
def slowComment : List Char → List Char × Bool
  | q :: r :: rest =>
    if !isAllowed q then (q :: r :: rest, false)
    else if !isAllowed r then (r :: rest, false)
    else slowCommentEnd q r rest
  | [q] => (if isAllowed q then [] else [q], false)
  | [] => ([], false)

/-- Reads to the end of a comment. Two hyphens stand only at its end; of two others the comment goes on
behind them. -/
def commentEnd : List Char → List Char × Bool
  | '-' :: '-' :: '>' :: rest => (rest, true)
  | '-' :: '-' :: rest => ((commentEnd rest).1, false)
  | '-' :: rest => commentEnd rest
  | c :: rest =>
    if c = '\t' || c = '\n' || (' ' ≤ c && c.toNat < 128) then commentEnd rest
    else slowComment (c :: rest)
  | [] => ([], false)

/-- Reads a comment after its opening. -/
def comment : Read Unit := do
  let (more, isProper) := commentEnd (← rest)
  goOn more
  expect isProper

/-- Names of instructions that begin with the letters `xml`. -/
def knownTargets : List String := ["xml-stylesheet", "xml-model"]

/-- Reads to the end of an instruction. -/
def instructionEnd : List Char → List Char × Bool
  | '?' :: '>' :: rest => (rest, true)
  | c :: rest => if isAllowed c then instructionEnd rest else (c :: rest, false)
  | [] => ([], false)

/-- Looks at the name of an instruction. The letters `xml` alone are kept for the declaration. -/
def checkTarget (name : List Char) : Read Unit := do
  if (name.take 3).map Char.toLower = "xml".toList then
    if name.length = 3 then
      fatal
      return
    if knownTargets.contains (String.ofList name) then return
    found .warning
  if name.contains ':' then found .error

/-- Reads an instruction after its opening. -/
def instruction : Read Unit := do
  match ← takeName with
  | none => fatal
  | some name =>
    checkTarget name
    if !(← accept "?>") then
      needBlanks
      let (more, isProper) := instructionEnd (← rest)
      goOn more
      expect isProper

/-- Reads white space, comments and instructions. -/
def miscFrom : Nat → Read Unit
  | 0 => pure ()
  | fuel + 1 => do
    let _ ← blanks
    if ← accept "<?" then
      instruction
      miscFrom fuel
    else if ← accept "<!--" then
      comment
      miscFrom fuel

/-- Reads white space, comments and instructions. -/
def misc : Read Unit := do miscFrom (← get).steps

end GirDoc.Xml
