import GirDoc.Xml.Tag

/-!
# Content

What stands between the tags of an element: texts, other elements, and references to entities that stand for
both.
-/

namespace GirDoc.Xml

/-- Reads characters up to a mark; `out` are those before, last one first. -/
def textEnd (out : List Char) : List Char → List Char × List Char
  | [] => (out.reverse, [])
  | c :: rest =>
    if c = '<' || c = '&' || !isAllowed c then (out.reverse, c :: rest)
    else if c = ']' && rest.take 2 = [']', '>'] then (out.reverse, c :: rest)
    else textEnd (c :: out) rest

/-- Reads the text here. The mark that ends a section of characters has no place in it. -/
def characters : Read Unit := do
  let (text, more) := textEnd [] (← rest)
  addContent [] [text]
  match more with
  | [] => goOn []
  | c :: more =>
    if c = '<' || c = '&' then goOn (c :: more)
    else
      goOn more
      fatal

/-- Reads a section of characters after its opening. -/
def characterSection : Read Unit := do
  match cutAt? "]]>".toList (← rest) with
  | some (text, more) =>
    if text.all isAllowed then
      goOn more
      addContent [] [text]
    else
      goOn ((← rest).dropWhile isAllowed)
      fatal
  | none =>
    goOn ((← rest).dropWhile isAllowed)
    fatal

/-- Reads content up to the end of the element around it; `reference` reads what an ampersand begins. -/
def contentFrom (reference : Read Unit) (outer : Nat) : (fuel : Nat) → Read Unit
  | 0 => pure ()
  | fuel + 1 => do
    match ← rest with
    | [] => pure ()
    | '<' :: '/' :: _ =>
      if outer < (← get).frames.length then
        endTag
        contentFrom reference outer fuel
    | '<' :: _ =>
      if ← accept "<?" then instruction
      else if ← accept "<![CDATA[" then characterSection
      else if ← accept "<!--" then comment
      else startTag
      contentFrom reference outer fuel
    | '&' :: _ =>
      reference
      contentFrom reference outer fuel
    | _ =>
      characters
      contentFrom reference outer fuel

/-- The namespaces around a text that stands for an entity. -/
def farScope (scope : Scope) : Scope :=
  scope.map fun (letters, b) => (letters, { b with isNear := false })

/-- Reads what an entity stands for, by itself: elements begin and end in the same text, the namespaces
around it are not those of its elements, and of what is found in it only the fatal counts around it. -/
def entityContent (reference : Read Unit) (name text : List Char) : Read Unit := do
  let outer ← get
  if outer.expanding.contains name then haltEndless
  countExpanded text.length
  let counted := (← get).expanded
  set { outer with
    layers := [{ rest := text }]
    steps := text.length + 1
    findings := { outer.findings with isWellFormed := true, last := none }
    spoiltAt := none
    isInEntity := true
    expanding := name :: outer.expanding
    scope := farScope outer.scope
    frames := []
    around := 1
    closed := []
    texts := []
    expanded := counted }
  let result ← OptionT.lift (contentFrom reference 0 (text.length + 1)).run
  let inner ← get
  let isBalanced := result.isSome && inner.findings.isWellFormed && inner.frames.isEmpty
    && (inner.layers.all (·.rest.isEmpty))
  set { outer with
    findings := { outer.findings with
      warnings := inner.findings.warnings
      errors := inner.findings.errors }
    contents := inner.contents
    expanded := inner.expanded }
  if inner.isEndless then haltEndless
  if isBalanced then
    let contents : Contents :=
      { elements := inner.closed.reverse
        texts := inner.texts.reverse
        cost := text.length + (inner.expanded - outer.expanded) }
    addContent contents.elements contents.texts
    modify fun st => { st with contents := (name, contents) :: st.contents }
  else fatal

/-- Reads a reference in content; `content` reads what an entity stands for. After a fatal finding entities
stand for nothing. -/
def referenceBy (content : List Char → List Char → Read Unit) : Read Unit := do
  skip
  if ← accept "#" then
    let (c, more) := numberedChar (← rest)
    goOn more
    match c with
    | some c => addContent [] [[c]]
    | none => fatal
  else match ← takeName with
    | none => fatal
    | some name =>
      if !(← accept ";") then fatal
      else
        let meaning ← meaning? false name
        let st ← get
        if st.isSound then
          match meaning with
          | some (.char c) => addContent [] [[c]]
          | some (.text text) => match st.contents.lookup name with
            | some contents =>
              countExpanded contents.cost
              addContent contents.elements contents.texts
            | none => content name text
          | none => pure ()

/-- Reads a reference in content, which may stand for others so many levels deep. -/
def contentReference : (levels : Nat) → Read Unit
  | 0 => referenceBy fun _ _ => haltEndless
  | levels + 1 => referenceBy (entityContent (contentReference levels))

/-- Reads an element and what it holds. -/
def element : Read Unit := do
  startTag
  if !(← get).frames.isEmpty then
    contentFrom (contentReference deepest) 1 (← get).steps
    if (← rest).isEmpty then fatal else endTag

end GirDoc.Xml
