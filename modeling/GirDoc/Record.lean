import GirDoc.Session

/-!
# Records of symbols

Symbols as values. In its written form a typed item is spelled out and any other symbol is named; in its
shown form a symbol is given with all that is known of it.
-/

namespace GirDoc.Record

/-- A text that may be missing. -/
def optional : Option String → Value
  | some s => .text s
  | none => .null

/-- A link. -/
def link (l : Link) : Value :=
  .dict [("link", .list [optional l.ref, optional l.title, optional l.id])]

/-- A token of a type. -/
def token : TypeToken → Value
  | .text s => .text s
  | .link l => link l

/-- The tokens of a type. -/
def tokens : Option (List TypeToken) → Value
  | some ts => .list (ts.map token)
  | none => .null

/-- The written form of a typed item that is only a link to a class. -/
def classItem (name : Option String) : Value :=
  .dict [("type", .text SymbolKind.qualified.name), ("tokens", .list [link (Link.named name)])]

/-- A comment. -/
def comment (c : Comment) : Value :=
  .dict [("comment", .list [optional c.name, optional c.description, optional c.filename])]

/-- The classes that extend a class, by name. -/
def family (names : List (Option String)) : Value :=
  .dict (names.map fun name => (name.getD "None", classItem name))

/-- An entry, unless it is null or an empty list. -/
def entry (key : String) : Value → List (String × Value)
  | .null => []
  | .list [] => []
  | v => [(key, v)]

/-- An entry for a part that was set; a plain value given for it counts, whatever it is. -/
def partEntry (s : Symbol) (word : String) (usual : Option Value) : List (String × Value) :=
  match s.plain.lookup word, usual with
  | some v, _ => [(word, v)]
  | none, some v => [(word, v)]
  | none, none => []

/-- An entry, unless its value counts as false. -/
def trueEntry (key : String) (v : Value) : List (String × Value) :=
  if v.truthy then [(key, v)] else []

/-- All attributes of a symbol, by where they come from; `form` writes one of those of introspection. -/
def attributesOf (form : Attribute → Value) (s : Symbol) : Value :=
  if s.attributes.isEmpty then .dict s.otherAttributes
  else .dict (Value.put s.otherAttributes Symbol.introspection
    (.dict (s.attributes.map fun (key, a) => (key, form a))))

/-- The attributes and the contents of a symbol, unless they are empty; `form` writes one of the
attributes. -/
def additions (form : Attribute → Value) (s : Symbol) : List (String × Value) :=
  trueEntry "attrs" (s.part "extension_attributes" (attributesOf form s))
    ++ trueEntry "contents" (s.part "extension_contents" (.dict s.contents))

/-- The written form of a typed item. -/
def item (form : Attribute → Value) (s : Symbol) : Value :=
  .dict ([("type", .text s.kind.name), ("tokens", s.part "type_tokens" (tokens s.tokens))]
    ++ partEntry s "argname" (s.argName.map .text) ++ partEntry s "name" (s.itemName.map .text)
    ++ additions form s)

/-- The written form of what is in a place. Items may hold others in their attributes, at most `depth`
levels of them. -/
def writtenWithin (db : Database) : (depth : Nat) → SymbolSlot → Value
  | 0, _ => .null
  | _, none => .null
  | depth + 1, some id =>
    match db.get? id with
    | none => .null
    | some s =>
      if s.kind.isQualified then
        item (fun
          | .value v => v
          | .symbols slots => .list (slots.map (writtenWithin db depth))) s
      else .dict [("ref", s.uniqueValue)]

/-- The written form of what is in a place. -/
def written (db : Database) (slot : SymbolSlot) : Value :=
  writtenWithin db (db.symbols.size + 1) slot

/-- The written form of a list of places. -/
def writtenAll (db : Database) (slots : List SymbolSlot) : Value :=
  .list (slots.map (written db))

/-- The written form of an attribute. -/
def attributeForm (db : Database) : Attribute → Value
  | .value v => v
  | .symbols slots => writtenAll db slots

/-- All that is known of a symbol. -/
def shownSymbol (s : Session) (symbol : Symbol) : Value :=
  let db := s.database
  let shown (word : String) (usual : Value) : List (String × Value) :=
    entry word (symbol.part word usual)
  .dict ([("type", .text symbol.kind.name), ("is_method", symbol.part "is_method" (.bool symbol.isMethod)),
      ("throws", symbol.part "throws" (.bool symbol.throws))]
    ++ entry "unique_name" symbol.uniqueValue
    ++ shown "display_name" (optional symbol.displayName)
    ++ shown "language" (optional symbol.language)
    ++ shown "filename" (optional symbol.filename)
    ++ shown "parameters" (writtenAll db symbol.parameters)
    ++ shown "return_value" (writtenAll db symbol.returnValue)
    ++ shown "members" (writtenAll db symbol.members)
    ++ shown "link" ((symbol.link.map link).getD .null)
    ++ partEntry symbol "enum_value" (symbol.enumValue.map .int)
    ++ partEntry symbol "prop_type" (symbol.propertyType.map fun id => written db (some id))
    ++ partEntry symbol "hierarchy" (symbol.hierarchy.map fun names => .list (names.map classItem))
    ++ partEntry symbol "children"
      (symbol.childrenOf.map fun name => family (s.index.childrenOf name))
    ++ additions (attributeForm db) symbol)

/-- The shown form of what is in a place. -/
def shown (s : Session) (slot : SymbolSlot) : Value :=
  match slot.bind s.database.get? with
  | none => .null
  | some symbol =>
    if symbol.kind.isQualified then written s.database slot else shownSymbol s symbol

/-- All symbols that can be requested, shown by the spelling of their key. Of two keys that are spelled
alike the later one counts. -/
def shownAll (s : Session) : Value :=
  .dict (Value.ofPairs (s.database.keys.map fun (key, id) => (key.value.display, shown s (some id))))

/-! ## Requests -/

/-- A detail of a request, with the word for it. -/
def detail (s : Session) : Detail → String × Value
  | .uniqueName name => ("unique_name", .text name)
  | .displayName name => ("display_name", optional name)
  | .filename file => ("filename", optional file)
  | .language name => ("language", .text name)
  | .line n => ("lineno", .int n)
  | .extentStart n => ("extent_start", .int n)
  | .extentEnd n => ("extent_end", .int n)
  | .parameters slots => ("parameters", writtenAll s.database slots)
  | .returnValue slots => ("return_value", writtenAll s.database slots)
  | .members slots => ("members", writtenAll s.database slots)
  | .hierarchy names => ("hierarchy", .list (names.map classItem))
  | .children of => ("children", family (s.index.childrenOf of))
  | .propertyType id => ("prop_type", written s.database (some id))
  | .fieldType id => ("qtype", written s.database (some id))
  | .aliasedType id => ("aliased_type", written s.database (some id))
  | .variableType id => ("type_qs", written s.database (some id))
  | .memberName name => ("member_name", .text name)
  | .isFunctionPointer b => ("is_function_pointer", .bool b)
  | .anonymous b => ("anonymous", .bool b)
  | .rawText text => ("raw_text", optional text)
  | .definitionText text => ("original_text", .text text)
  | .extra entries => ("extra", .dict entries)
  | .other word value => (word, value)

/-- A request. -/
def request (s : Session) (r : Request) : Value :=
  .list [.text r.kind.name, .dict (Value.ofPairs (r.details.map (detail s)))]

/-! ## The log -/

/-- An entry of the log. -/
def logEntry : LogEntry → Value
  | .info message => .list [.text "info", .text message]
  | .debug message => .list [.text "debug", .text message]
  | .warn code message => .list [.text "warn", .text code, .text message]
  | .parse file arguments options =>
    .list [.text "parse", .text file, .list (arguments.map .text), .int options]
  | .format options => .list [.text "format", .int options]
  | .readComment text file first last includePaths =>
    .list [.text "parse_comment", .text text, .text file, .int first, .int last, includePaths]
  | .addComment name description filename =>
    .list [.text "add_comment", optional name, optional description, optional filename]

end GirDoc.Record
