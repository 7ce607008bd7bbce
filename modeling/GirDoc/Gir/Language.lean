import GirDoc.Fundamentals
import GirDoc.Gir.Reading
import GirDoc.PathParts
import GirDoc.Session

/-!
# Languages and links

Documentation is written once for each language. The language decides what symbols are called, where
links lead and what their titles are.
-/

namespace GirDoc.Gir

open Session

/-- The page owner that marks pages of introspection. -/
def pageOwner : String := "gi-extension"

/-- What a table holds for a name; nothing for no name. -/
def tableValue? {α : Type} (table : List (String × α)) (name : Option String) : Option α :=
  name.bind fun name => table.lookup name

/-! ## Choosing a language -/

/-- The voice of a language. -/
def voiceOf (language : Option String) : Voice :=
  match language with
  | some "c" => .c
  | some "python" => .python
  | some "javascript" => .javascript
  | _ => .none

/-- Chooses a language, or none. Titles of links are localized only while there is one. -/
def setLanguage (language : Option String) : Doc Unit :=
  modify fun s => { s with language, localizesTitles := language.isSome, voice := voiceOf language }

/-- The fundamental types of a voice. -/
def fundamentalsOf : Voice → List (String × Link)
  | .python => Fundamentals.python
  | .javascript => Fundamentals.javascript
  | _ => []

/-- The fundamental type that a name stands for now. -/
def fundamental? (name : Option String) : Doc (Option Link) := do
  return tableValue? (fundamentalsOf (← get).voice) name

/-- The names of symbols in a voice. -/
def Names.ofVoice (names : Names) : Voice → List (String × String)
  | .none => []
  | .c => names.c
  | .python => names.python
  | .javascript => names.javascript

/-- The name of a symbol in the language chosen. -/
def localName? (name : Option String) : Doc (Option String) := do
  let s ← get
  return tableValue? (s.names.ofVoice s.voice) name

/-! ## Names of symbols -/

/-- The names of a symbol in each language, from the parts of its namespaced name. What C identifies is
a member of the object before it in JavaScript. -/
def withNames (names : Names) (n : Xml.Node) (name : String) (parts : List String) : Names :=
  let joined := ".".intercalate parts
  if (n.attribute? (c "identifier")).isSome then
    let member := parts.dropLast ++ ["prototype." ++ parts.getLast?.getD ""]
    { c := Value.put names.c name name
      python := Value.put names.python name joined
      javascript := Value.put names.javascript name (".".intercalate member) }
  else if (n.attribute? (c "type")).isSome then
    { c := Value.put names.c name name
      python := Value.put names.python name joined
      javascript := Value.put names.javascript name joined }
  else names

/-- Notes the names of a symbol in each language, and gives the parts of its namespaced name. -/
def addNames (name : String) (n : Xml.Node) : Doc (List String) := do
  let parts ← Attempt.ofExcept (nameParts n)
  modify fun s => { s with names := withNames s.names n name parts }
  return parts

/-- Whether other languages can use what has a name. -/
def isIntrospectable (name : Option String) : Doc Bool := do
  if (← fundamental? name).isSome then return true
  let s ← get
  match name with
  | none => return false
  | some name =>
    match s.index.node? name with
    | none => return false
    | some n =>
      if (s.names.c.lookup name).isNone then
        let _ ← addNames name n
      return n.attribute? "introspectable" ≠ some "0"

/-! ## Links -/

/-- The page of a language for a reference: the language comes after the name of the project, else in
front. -/
def insertLanguage (project ref language : String) : Except Fault String :=
  if ref.startsWith (project ++ "/") then
    match (PathParts.ofPaths [ref]).all with
    | [] => .error .outOfRange
    | first :: rest => .ok (PathParts.ofPaths (first :: language :: rest)).path
  else .ok (language ++ "/" ++ ref)

/-- The reference of a link, in the page of a language. -/
def refIn (link : Link) (language : String) : Doc String := do
  let ref ← Attempt.need .noSuchPart link.ref
  Attempt.ofExcept (insertLanguage (← given).project.name ref language)

/-- Whether the page of a symbol is one of introspection. -/
def hasPage (id : Option String) : Doc Bool := do
  return tableValue? (← given).pages id = some pageOwner

/-- The language whose pages links lead to when none is chosen. -/
def firstLanguage : Doc String := do
  let languages ← Attempt.need .wrongType (← get).languages
  Attempt.need .outOfRange languages.head?

/-- Where a link leads in the language chosen, if that differs from what it says. -/
def linkRef (link : Link) : Doc (Option String) := do
  let isOurs ← hasPage link.id
  match (← get).language with
  | none =>
    if isOurs then return some (← refIn link (← firstLanguage)) else return none
  | some language =>
    match ← fundamental? link.id with
    | some f => return f.ref
    | none =>
      if isOurs then
        let hasRef := !(link.ref.getD "").isEmpty
        if hasRef && language ≠ "c" then
          if !(← isIntrospectable link.id) then return some (← refIn link "c")
        return some (← refIn link language)
      else match link.ref with
        | some _ => return none
        | none => return tableValue? (← get).onlineLinks link.id

/-- The title of a link in the language chosen, if that differs from what it says. -/
def linkTitle (link : Link) : Doc (Option String) := do
  match ← fundamental? link.id with
  | some f => return f.givenTitle
  | none =>
    let isC := (← get).language = some "c"
    if !isC then
      if !(← isIntrospectable link.id) then
        return some ((← Attempt.need .wrongType link.givenTitle) ++ " (not introspectable)")
    match (← localName? link.id).filter (!·.isEmpty) with
    | some name => return some name
    | none =>
      if isC && (tableValue? (← get).onlineLinks link.id).isSome then return link.id
      else return none

/-- The link to what installed documentation says of a name. -/
def onlineLink? (s : Session) (name : String) : Option Link :=
  match s.onlineLinks.lookup name with
  | some ref => if ref.isEmpty then none
    else some { ref := some ref, title := some name, id := some name }
  | none => none

end GirDoc.Gir
