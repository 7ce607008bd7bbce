import GirDoc.Annotations
import GirDoc.Gir.Flag
import GirDoc.Gir.Language
import GirDoc.Xml.Search

/-!
# Formatting symbols

How symbols look in each language. What is the same in every language is left to the common formatter;
its calls, and those of templates, are given as values with their arguments.
-/

namespace GirDoc.Gir

open Session

/-- What the common formatter makes of its arguments. -/
def common (name : String) (arguments : List Value) : Value :=
  .dict [("base", .text name), ("args", .list arguments)]

/-- Whether C is the language chosen. -/
def inC : Doc Bool := do return (← get).language = some "c"

/-- The written form of what is in a place, as it is now. -/
def writtenNow (slot : SymbolSlot) : Doc Value := do
  return Record.written (← get).database slot

/-- The tokens that only C needs. -/
def cTokens : List Value := ["*", "const ", "restrict ", "volatile "].map .text

/-- The tokens of a type; other languages have no stars and qualifiers. -/
def formatTokens (tokens : Value) : Doc Value := do
  if ← inC then return common "_format_type_tokens" [tokens]
  let items ← Attempt.ofExcept ((Options.itemsOf tokens).mapError Fault.ofOptions)
  return common "_format_type_tokens" [.list (items.filter fun t => !cTokens.contains t)]

/-- The items of a result. C returns one thing; other languages return all that is set, and leave out
what is nothing. -/
def formatReturn (items : List SymbolSlot) : Doc Value := do
  let first ← Attempt.need .outOfRange items.head?
  let isVoid ← match first with
    | none => pure true
    | some id => do pure ((← attributeOf (← symbol id) "gi_name") == .text "none")
  let shown ←
    if ← inC then pure (if isVoid then [none] else [first])
    else if isVoid then pure (if items.length ≤ 1 then [none] else items.drop 1)
    else pure items
  return common "_format_return_value_symbol" [Record.writtenAll (← get).database shown]

/-- A symbol with a link to its type. -/
def formatLinked (slot : SymbolSlot) : Doc Value := do
  let plain ← do pure (common "_format_linked_symbol" [← writtenNow slot])
  if ← inC then return if slot.isNone then .text "void" else plain
  match slot with
  | none => return plain
  | some id =>
    let s ← symbol id
    if !s.kind.isQualified then return plain
    match ← attributeOf s "gi_name" with
    | .null => return plain
    | .list _ | .dict _ => throw .wrongType
    | name =>
      let key := match name with
        | .text name => some name
        | _ => none
      match ← fundamental? key with
      | some f => formatTokens (.list [Record.link { ref := f.ref, title := f.givenTitle, id := key }])
      | none => formatTokens (s.part "type_tokens" (Record.tokens s.tokens))

/-- A parameter. Other languages do not pass those that are only set. -/
def formatParameter (slot : SymbolSlot) : Doc Value := do
  let id ← Attempt.need .noSuchPart slot
  if ← inC then dropContent id "type-link"
  else
    if (← attributeOf (← symbol id) "direction") == .text "out" then
      return .list [.null, .bool false]
    setContent id "type-link" (← formatLinked slot)
  return common "_format_parameter_symbol" [← writtenNow slot]

/-- What a prototype is introduced with. -/
def prototypeComment (language : String) (s : Symbol) : String :=
  let name := s.displayed
  match s.kind with
  | .signal => language ++ " callback for the '" ++ name ++ "' signal"
  | .vfunction => language ++ " implementation of the '" ++ name ++ "' virtual method"
  | _ => language ++ " wrapper for '" ++ name ++ "'"

/-- The prototype of something that can be called. -/
def formatPrototype (slot : SymbolSlot) (isPointer title : Value) : Doc Value := do
  let plain ← do pure (common "_format_prototype" [← writtenNow slot, isPointer, title])
  if ← inC then return plain
  let s ← symbolIn slot
  let _ ← attributeOf s "parameters"
  let database := (← get).database
  match (s.attributes.lookup "parameters").map (Record.attributeForm database) with
  | none | some .null => return plain
  | some parameters =>
    let language := (← get).language
    let name :=
      if language = some "python" then "python_prototype.html" else "javascript_prototype.html"
    return template name [
      ("return_value", s.part "return_value" (Record.writtenAll database s.returnValue)),
      ("function_name", title), ("parameters", parameters),
      ("comment", .text (prototypeComment (spelled language) s)),
      ("throws", s.part "throws" (.bool s.throws)),
      ("out_params", .list []), ("is_method", s.part "is_method" (.bool s.isMethod))]

/-- A virtual method, under the name that implementations of it have in each language. -/
def formatVfunction (slot : SymbolSlot) : Doc Value := do
  let id ← Attempt.need .noSuchPart slot
  let s ← symbol id
  let link ← Attempt.need .noSuchPart s.link
  let name := s.displayed
  let retitle (title : String) : Doc Unit :=
    changeSymbol id fun s => { s with link := some { link with title := some title } }
  let title ← match (← get).language with
    | some "python" => do
      retitle ("do_" ++ name)
      pure (.text ("do_" ++ spelled link.title))
    | some "javascript" => do
      let parent ← Attempt.need .noSuchPart s.parentName
      retitle (parent.display ++ "::" ++ name)
      pure (.text ("vfunc_" ++ spelled link.title))
    | _ => pure (Record.optional link.title)
  return common "_format_callable" [← writtenNow slot, .text "virtual method", title]

/-- A structure. -/
def formatStruct (slot : SymbolSlot) : Doc Value := do
  if ← inC then return common "_format_struct" [← writtenNow slot]
  let s ← symbolIn slot
  let members := common "_format_members_list"
    [s.part "members" (Record.writtenAll (← get).database s.members), .text "Attributes"]
  return .list [template "python_compound.html"
    [("symbol", ← writtenNow slot), ("members_list", members)], .bool false]

/-- A constant. -/
def formatConstant (slot : SymbolSlot) : Doc Value := do
  let written ← writtenNow slot
  if ← inC then return common "_format_constant" [written]
  return .list [template "constant.html"
    [("symbol", written), ("definition", .null), ("constant", written)], .bool false]

/-- The text of a comment, and the comment with the tree that was made of it. -/
def formatComment (c : Comment) : String × Comment :=
  let description := c.description.getD ""
  if description.isEmpty then ("", c)
  else if c.tree.truthy then ("html(" ++ c.tree.display ++ ")", c)
  else
    let tree := "ast(" ++ description ++ ")"
    ("html(" ++ tree ++ ")", { c with tree := .text tree })

/-- The folder of the pages in the language chosen. -/
def outputFolder : Doc String := do
  let language ← match (← get).language.filter (!·.isEmpty) with
    | some language => pure language
    | none => firstLanguage
  return Path.join "html" language

/-! ## Pages -/

/-- The fault of annotations that cannot be read. -/
def annotationFault : Annotations.Failure → Fault
  | .notIndexable => .wrongType
  | .noFirstItem => .outOfRange
  | .noSuchKey => .missingKey

/-- An explained annotation as a value. -/
def noteRecord (n : Annotations.Note) : Value :=
  .dict [("nick", .text n.nick), ("help", .text n.help), ("value", n.value)]

/-- Explains the annotations of an item, for C only. -/
def explainAnnotations (id : SymbolId) : Doc Unit := do
  if ← inC then
    let s ← symbol id
    if (s.part "comment" .null).truthy then throw .noSuchPart
    let notes := s.comment.elim [] Comment.notes
    let report := Annotations.explainAll notes
    printLines report.printed
    match report.failure with
    | some e => throw (annotationFault e)
    | none =>
      let shown := template "gi_annotations.html"
        [("annotations", .list (report.notes.map noteRecord))]
      setContent id "Annotations" shown
  else dropContent id "Annotations"

/-- Prepares a symbol for the page of the language chosen, and tells whether it belongs there. -/
def prepareSymbol (slot : SymbolSlot) : Doc Bool := do
  let id ← Attempt.need .noSuchPart slot
  let language := (← get).language
  changeSymbol id fun s => { s with language }
  let s ← symbol id
  if s.kind = .returnItem || s.kind = .parameter then explainAnnotations id
  if s.kind.isQualified then return true
  if language ≠ some "c" then isIntrospectable s.uniqueName else return true

/-- A page: what was written for each language. -/
structure Page where
  extra : List (String × Value) := []
  records : List Value := []

/-- What the common formatter writes for a page with symbols and links: each is handled as often as
handlers are connected. -/
def pageRecord (symbols : List SymbolSlot) (links : List String) (page : Page) : Doc Value := do
  let handlers := (← get).symbolHandlers
  let prepared ← symbols.mapM fun slot => do
    return Value.list (← (List.replicate handlers ()).mapM fun _ => do
      return .bool (← prepareSymbol slot))
  let s ← get
  let found := links.map fun name =>
    Value.list (List.replicate s.searchHandlers (match onlineLink? s name with
      | some l => Record.link l
      | none => .null))
  return .dict [("language", Record.optional s.language), ("extra", .dict page.extra),
    ("symbols", .list prepared), ("links", .list found)]

/-- Writes the page of one language; `write` is what the common formatter does with a page. -/
def formatLanguage (write : Page → Doc Value) (page : Page) (language : String) : Doc Page := do
  let page := { page with extra := Value.put page.extra "gi-language" (.text language) }
  setLanguage (some language)
  let record ← write page
  return { page with records := page.records ++ [record] }

/-- A session with the handlers of a page connected. Signals are not a matter of this library. Taken of them is that
connecting a handler adds it, also if it is there, and that it is called once for each time. -/
def connected (s : Session) : Session :=
  { s with searchHandlers := s.searchHandlers + 1, symbolHandlers := s.symbolHandlers + 1 }

/-- A session with the handlers of a page disconnected, each of them once. -/
def disconnected (s : Session) : Session :=
  { s with searchHandlers := s.searchHandlers - 1, symbolHandlers := s.symbolHandlers - 1 }

/-- Writes a page in all languages, between connecting and disconnecting its handlers. If it fails, they are not
disconnected. -/
def formatPageBetween (connect disconnect : Session → Session) (write : Page → Doc Value) : Doc Page := do
  modify connect
  let languages ← Attempt.need .wrongType (← get).languages
  let start : Page := { extra := [("gi-languages", .text (",".intercalate languages))] }
  let page ← languages.foldlM (formatLanguage write) start
  setLanguage none
  modify disconnect
  return page

/-- Writes a page in all languages. -/
def formatPageWith (write : Page → Doc Value) : Doc Page := formatPageBetween connected disconnected write

/-- Writes a page with symbols and links in all languages. -/
def formatPage (symbols : List SymbolSlot) (links : List String) : Doc Page :=
  formatPageWith (pageRecord symbols links)

/-- What is written about a symbol in a language. -/
def description (language : String) : String := "<div>" ++ language ++ "</div>"

/-- The search for the divisions of a page that are about a name. It is not looked at which marks of searches
the name itself has. -/
def divisionSearch (name : String) : String := ".//div[@id=\"" ++ name ++ "\"]"

/-- The fault of a search. -/
def searchFault : Xml.Search.Failure → Fault
  | .malformed => .unsearchable
  | .unknownStep => .missingKey
  | .invalidName => .invalidName

/-- Whether the elements at places can be replaced one after the other. The root is in no element that
it could be replaced in, and no element is replaced twice. -/
def areReplaceable : List Xml.Place → Bool
  | [] => true
  | p :: rest => !p.indices.isEmpty && !rest.any p.isSame && areReplaceable rest

/-- Puts a symbol into the page at a path. The page is read as far as possible and the divisions of the
symbol are replaced; but the page cannot be written back, and is left empty. -/
def patchAt (name language path : String) : Doc Unit := do
  let files := (← given).files
  let bytes ← Attempt.ofExcept (documentBytes files path)
  let read ← Attempt.need .malformed (Xml.recover (sourceOf files path) bytes)
  let root ← Attempt.need .noSuchPart read
  let places ← Attempt.ofExcept ((Xml.Search.run (divisionSearch name) root).mapError searchFault)
  if !places.isEmpty then
    let _ ← Attempt.need .malformed (Xml.read? {} (description language).toUTF8.toList)
    if !areReplaceable places then throw .noSuchPart
  let emptied ← Attempt.ofExcept ((files.truncate path).mapError Fault.ofPath)
  modify fun s => { s with environment := { s.environment with files := emptied } }
  throw .wrongType

/-- Puts a symbol into the pages that were written before. -/
def patchPage (slot : SymbolSlot) (ref output : String) : Doc Unit := do
  let s ← symbolIn slot
  let languages ← Attempt.need .wrongType (← get).languages
  languages.forM fun language => do
    setLanguage (some language)
    patchAt s.uniqueValue.display language (Path.joinAll output [language, ref])
  setLanguage none

end GirDoc.Gir
