import GirDoc.Gir.Language
import GirDoc.Text.Blank

/-!
# Indexes of installed documentation

Installed documentation comes with an index of its symbols, in one of two formats. Both give the places
online where symbols are documented.
-/

namespace GirDoc.Gir

open Session

/-! ## The index of keywords -/

/-- The namespace of indexes of keywords. -/
def bookSpace : String := "http://www.devhelp.net/book"

/-- What follows the first word, or the only word. -/
def afterWord (name : String) : String :=
  match Text.cut ' ' name with
  | some (_, rest) => rest
  | none => name

/-- The name of a signal or property, from the anchor in its link. -/
def anchorName (mark link : String) : Except Fault String :=
  match Text.cut '#' link with
  | none => .error .outOfRange
  | some (_, anchor) => match Text.cut '-' anchor with
    | none => .error .outOfRange
    | some (owner, name) => .ok (owner ++ mark ++ Text.trimStartOf (· = '-') name)

/-- The characters that end the name of something that is called: parentheses, and the no-break space
that stands before them. -/
def isCallMark (c : Char) : Bool := c.toNat == 0xA0 || c = '(' || c = ')'

/-- The symbol that a keyword stands for. -/
def keywordName (type name link : String) : Except Fault String :=
  if type = "macro" || type = "function" then
    .ok (Text.trimEndOf isCallMark name)
  else if type = "struct" || type = "enum" then .ok (afterWord name)
  else if type = "signal" then anchorName "::" link
  else if type = "property" then anchorName ":" link
  else .ok name

/-- Notes where a symbol is documented. -/
def addOnline (name ref : String) : Doc Unit :=
  modify fun s => { s with onlineLinks := Value.put s.onlineLinks name ref }

/-- Where the documentation of an index is found online. -/
def onlineBase? (root : Xml.Element) : Option String :=
  match (root.attribute? "online").filter (!·.isEmpty) with
  | some base => some base
  | none => ((root.attribute? "name").filter (!·.isEmpty)).map fun name =>
    "https://developer.gnome.org/" ++ name ++ "/unstable/"

/-- Notes a keyword. -/
def readKeyword (base : String) (n : Xml.Node) : Doc Unit := do
  let name ← Attempt.need .missingKey (n.attribute? "name")
  let type ← Attempt.need .missingKey (n.attribute? "type")
  let link ← Attempt.need .missingKey (n.attribute? "link")
  addOnline (← Attempt.ofExcept (keywordName type name link)) (base ++ link)

/-- Reads the index of keywords in a directory, and tells whether there is one. -/
def readKeywords (dir : String) : Doc Bool := do
  let path := Path.join dir (Path.base dir ++ ".devhelp2")
  let files := (← given).files
  if !files.pathExists path then return false
  let root ← Attempt.ofExcept (readDocument files path)
  match onlineBase? root with
  | none => return false
  | some base =>
    let keywords := (Xml.Node.descendants ⟨root, []⟩).filter fun n =>
      n.tag = Xml.qualified bookSpace "keyword"
    keywords.forM (readKeyword base)
    debug ("Gathered " ++ toString keywords.length ++ " links from devhelp index " ++ path)
    return true

/-! ## The index of anchors -/

/-- The symbol that an anchor stands for. -/
def anchorTitle (title : String) : String :=
  let plain := Text.replaceChar '-' '_' title
  if plain.endsWith ":CAPS" then String.ofList (plain.toList.take (plain.length - 5)) else plain

/-- The file that an anchor is in, without the first directory. -/
def anchorFile (path : String) : String :=
  match Text.cut '/' path with
  | some (_, rest) => rest
  | none => path

/-- A part of a line between quotes, by its place; the last part keeps the newline. -/
def quotedPart (line : String) (place : Nat) : Doc String :=
  Attempt.need .outOfRange ((Text.splitAll '\x22' line)[place]?)

/-- Reads the lines of an index. They count only once a line has given the place online; `base` is that
place. Lines that are not all are followed by a fault, unless reading ends before it. The result is the number
of links. -/
def readAnchors (isWhole : Bool) : (base : String) → List String → Doc Nat
  | _, [] => if isWhole then return 0 else throw .notText
  | base, line :: rest => do
    if line.startsWith "<ONLINE" then readAnchors isWhole (← quotedPart line 1) rest
    else if base.isEmpty then return 0
    else if line.startsWith "<ANCHOR" then
      let file := anchorFile (← quotedPart line 3)
      let title := anchorTitle (← quotedPart line 1)
      addOnline title (base ++ "/" ++ file)
      return (← readAnchors isWhole base rest) + 1
    else readAnchors isWhole base rest

/-- Reads the index of anchors in a directory, if there is one. -/
def readAnchorIndex (dir : String) : Doc Unit := do
  let path := Path.join dir "index.sgml"
  match (← given).files.readLines path with
  | .error .unnamable => throw .unnamable
  | .error _ => return
  | .ok read =>
    let count ← readAnchors read.isWhole "" read.lines
    if 0 < count then
      debug ("Gathered " ++ toString count ++ " links from sgml index " ++ path)

/-! ## All installed documentation -/

/-- Gathers the links of all installed documentation. -/
def gatherLinks : Doc Unit := do
  let env ← given
  let dir := Path.joinAll env.project.dataDir ["gtk-doc", "html"]
  if !env.files.pathExists dir then
    printLines ["no gtk doc to gather links from in " ++ dir]
    return
  let names ← Attempt.ofExcept ((env.files.list dir).mapError Fault.ofPath)
  names.forM fun name => do
    let sub := Path.join dir name
    if env.files.isDir sub then
      if !(← readKeywords sub) then readAnchorIndex sub

/-- Sets introspection up: links are gathered once, and localized from then on if there are sources. -/
def setup : Doc Unit := do
  if !(← get).hasGathered then
    gatherLinks
    modify fun s => { s with hasGathered := true }
  if (← given).girSources.isEmpty then return
  info "Gathering legacy gtk-doc links"
  modify fun s => { s with linkHandlers := s.linkHandlers + 1 }

end GirDoc.Gir
