import GirDoc.Xml.State

/-!
# Declarations of texts

A document may begin with a declaration of its version and encoding, and of whether it stands alone. So may
an entity outside of a document; it has to name its encoding then.
-/

namespace GirDoc.Xml

/-! ## Settings -/

/-- Reads a value between quotes by `inside`; `none` if no quote begins it, or it ends with none. -/
def quotedBy (inside : Read (Option (List Char))) : Read (Option (List Char)) := do
  match ← rest with
  | q :: more =>
    if q = '\x22' || q = '\x27' then
      goOn more
      let value ← inside
      if ← isAt (· = q) then
        skip
        return value
      else
        fatal
        return none
    else
      fatal
      return none
  | [] =>
    fatal
    return none

/-- Reads a setting of the declaration if it stands here. -/
def setting (word : String) (inside : Read (Option (List Char))) :
    Read (Option (Option (List Char))) := do
  let _ ← plainBlanks
  if !(← accept word) then return none
  let _ ← plainBlanks
  if ← accept "=" then
    let _ ← plainBlanks
    return some (← quotedBy inside)
  else
    fatal
    return some none

/-- Reads a number of a version: a digit, a point, and digits. -/
def versionNumber : Read (Option (List Char)) := do
  match ← rest with
  | a :: '.' :: more =>
    if a.isDigit then
      goOn (more.dropWhile Char.isDigit)
      return some (a :: '.' :: more.takeWhile Char.isDigit)
    else return none
  | a :: more =>
    if a.isDigit then goOn more
    return none
  | [] => return none

/-- Reads the name of an encoding. -/
def encodingName : Read (Option (List Char)) := do
  match ← rest with
  | c :: more =>
    if c.isAlpha then
      let inside (c : Char) : Bool := c.isAlphanum || c = '.' || c = '_' || c = '-'
      goOn (more.dropWhile inside)
      return some (c :: more.takeWhile inside)
    else
      fatal
      return none
  | [] =>
    fatal
    return none

/-- Reads yes or no. -/
def yesOrNo : Read (Option (List Char)) := do
  if ← accept "no" then return some "no".toList
  else if ← accept "yes" then return some "yes".toList
  else
    fatal
    return none

/-- Reads the end of the declaration. -/
def endSettings : Read Unit := do
  let _ ← plainBlanks
  if !(← accept "?>") then
    fatal
    goOn (((← rest).dropWhile (· ≠ '>')).drop 1)

/-! ## Documents -/

/-- Looks at the version of a document. Later ones of the first kind are read as the first. -/
def checkVersion : Option (List Char) → Read Unit
  | none => fatal
  | some version =>
    if version = "1.0".toList then pure ()
    else found (if version.take 2 = "1.".toList then .warning else .fatal)

/-- Reads the declaration of a document after its first five characters. -/
def settings : Read Unit := do
  let version ← setting "version" versionNumber
  checkVersion version.join
  if !(← isAt isSpace) then
    if ← accept "?>" then return
    fatal
  match ← setting "encoding" encodingName with
  | some _ =>
    if !(← isAt isSpace) then
      if ← accept "?>" then return
      fatal
  | none => pure ()
  let standalone ← setting "standalone" yesOrNo
  modify fun st => { st with isStandalone := standalone.join = some "yes".toList }
  endSettings

/-- Goes on behind the mark that begins a declaration, if one stands here. -/
def acceptDeclaration : Read Bool := do
  match after? "<?xml".toList (← rest) with
  | some more =>
    if more.head?.any isSpace then
      goOn more
      return true
    else return false
  | none => return false

/-! ## Entities -/

/-- Reads the declaration of an entity after its first five characters. That the encoding is missing is
remarked on only if nothing was found before. -/
def entitySettings : Read Unit := do
  let version ← setting "version" versionNumber
  if version.join.isSome then expect (← isAt isSpace)
  let encoding ← setting "encoding" encodingName
  if encoding.join.isNone && (← get).findings.errors = 0 then fatal
  endSettings

end GirDoc.Xml
