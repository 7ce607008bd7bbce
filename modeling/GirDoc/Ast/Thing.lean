import GirDoc.Ast.Inspection
import GirDoc.Value.Access

/-!
# Things that can be asked about

An inspection goes from thing to thing: from a unit to a node, from the node to its type, from the type
to its fields. A thing is asked for one of its parts, some of which take arguments.
-/

namespace GirDoc.Ast

/-- The groups of things, where those questions are asked that belong to no single thing. -/
inductive Group where
  | indexes
  | units
  | nodes
  | types
  | tokens
  | locations
  | ranges
  | files
  | diagnostics
  | saveFailures
  | databases
  | databaseFailures
  | settings
  | completions
  | chunks
  | kinds (family : Family)
  | unknown
  deriving Repr, DecidableEq, Inhabited

/-- What diagnostics belong to. -/
inductive DiagnosticOwner where
  | ofUnit
  | ofDiagnostic
  | ofCompletion
  deriving Repr, DecidableEq, Inhabited

/-- What an inspection meets. -/
inductive Thing where
  /-- A plain value. -/
  | value (v : Value)
  | list (items : List Thing)
  /-- Things that come one by one and cannot be counted. -/
  | stream (items : List Thing)
  | group (g : Group)
  /-- The settings of the parser library. -/
  | settings
  /-- The functions of the parser library. -/
  | functions
  | index
  /-- A unit; the first one that was parsed is the inspection's own. -/
  | unit (own : Bool)
  | cursor (c : Cursor)
  | type (t : TypeRef)
  | kind (k : Kind)
  | location (l : Location)
  /-- A range, and the node whose extent it is. -/
  | range (r : Range) (owner : Option Cursor)
  | file (name : String)
  | token (t : Token)
  | inclusion (i : Inspection.Inclusion)
  | diagnostics (owner : DiagnosticOwner) (list : List Diagnostic)
  | diagnostic (d : Diagnostic)
  | ranges (d : Diagnostic)
  | fixIts (d : Diagnostic)
  | fixIt (f : FixIt)
  | completions (list : List Completion)
  | results (list : List Completion)
  | result (c : Completion)
  | completion (c : Completion)
  | chunk (c : Chunk)
  /-- A kind of chunks or a degree of availability. -/
  | named (name : String)
  /-- A text that the parser library holds. -/
  | held (s : Option String)
  | database (list : List CompileCommand)
  | commands (list : List CompileCommand)
  | command (c : CompileCommand)
  /-- Something that can be read. -/
  | contents (c : Contents)
  /-- Anything else, by the name of its sort. -/
  | object (sort : String)
  deriving Inhabited

/-- What a thing can be asked for. -/
inductive Part where
  | access
  | align
  | allCommands
  | allKinds
  | anonymous
  | argumentNodes
  | arguments
  | arrayElement
  | arraySize
  | availability
  | bitWidth
  | brief
  | canonical
  | canonicalType
  | categoryName
  | categoryNumber
  | children
  | chunkCount
  | classType
  | column
  | commandsFor
  | complete
  | constQualified
  | create
  | cursor
  | cursorAt
  | declaration
  | declares
  | definition
  | depth
  | diagnostics
  | directory
  | disableOption
  | display
  | elementCount
  | elementType
  | encoding
  | enumValue
  | extent
  | fieldOffset
  | fields
  | file
  | fileName
  | fileNamed
  | fixIts
  | format
  | hash
  | hasFunction
  | holds (property : String)
  | inClass (name : String)
  | included
  | includedFile
  | includes
  | index
  | integerType
  | isMain
  | kind
  | kindOf
  | lexicalParent
  | library
  | line
  | load
  | locate
  | location
  | mangled
  | name
  | namedType
  | notes
  | nullCursor
  | number
  | ofKind (number : Int)
  | offset
  | offsetAt
  | offsetOf
  | openDirectory
  | option
  | parent
  | parse
  | placeAt
  | pod
  | pointee
  | preorder
  | priority
  | range
  | rangeBetween
  | rangeOf
  | ranges
  | raw
  | refQualifier
  | referenced
  | remark
  | reparse
  | restrictQualified
  | result
  | resultCount
  | resultType
  | results
  | save
  | severity
  | size
  | source
  | spelling
  | start
  | stop
  | storage
  | string
  | templateCount
  | templateKind
  | templateType
  | templateValue
  | templateWord
  | time
  | tokenKindOf
  | tokens
  | type
  | underlying
  | unit
  | usr
  | value
  | variadic
  | volatileQualified
  /-- A part by its own name. -/
  | other (name : String)
  deriving Repr, DecidableEq, Inhabited

/-- The numbers that have a name in a group: options of parsing and formatting, severities, and the codes of
failures. -/
def Group.numbers : Group → List (String × Int)
  | units => [("PARSE_NONE", 0), ("PARSE_DETAILED_PROCESSING_RECORD", 1), ("PARSE_INCOMPLETE", 2),
    ("PARSE_PRECOMPILED_PREAMBLE", 4), ("PARSE_CACHE_COMPLETION_RESULTS", 8),
    ("PARSE_SKIP_FUNCTION_BODIES", 64), ("PARSE_INCLUDE_BRIEF_COMMENTS_IN_CODE_COMPLETION", 128)]
  | diagnostics => [("Ignored", 0), ("Note", 1), ("Warning", 2), ("Error", 3), ("Fatal", 4),
    ("DisplaySourceLocation", 1), ("DisplayColumn", 2), ("DisplaySourceRanges", 4), ("DisplayOption", 8),
    ("DisplayCategoryId", 16), ("DisplayCategoryName", 32), ("_FormatOptionsMask", 63)]
  | saveFailures => [("ERROR_UNKNOWN", 1), ("ERROR_TRANSLATION_ERRORS", 2), ("ERROR_INVALID_TU", 3)]
  | databaseFailures => [("ERROR_UNKNOWN", 0), ("ERROR_CANNOTLOADDATABASE", 1)]
  | _ => []

/-- The number that a part is the name of in a group. -/
def Group.number? (g : Group) : Part → Option Int
  | .other name => g.numbers.lookup name
  | _ => none

/-- The arguments of a question, by their places; those that are not given are missing. -/
abbrev Arguments := List (Option Thing)

namespace Thing

/-- Nothing. -/
def nothing : Thing := value .null

/-- A text. -/
def text (s : String) : Thing := value (.text s)

/-- A text, or nothing. -/
def text? (s : Option String) : Thing := value (.ofText? s)

/-- A whole number. -/
def int (n : Int) : Thing := value (.int n)

/-- A truth value. -/
def bool (b : Bool) : Thing := value (.bool b)

/-- A number with a name in a group. -/
def number (g : Group) (p : Part) : Except Fault Thing :=
  match g.number? p with
  | some n => .ok (int n)
  | none => .error .noSuchPart

/-- A node, or nothing. -/
def cursor? : Option Cursor → Thing
  | some c => cursor c
  | none => nothing

/-- The things in a thing of known length whose items are all there. -/
def sized? : Thing → Option (List Thing)
  | value (.text s) => some (s.toList.map fun c => text (String.singleton c))
  | value (.list items) => some (items.map value)
  | list items => some items
  | _ => none

/-! ## Arguments -/

/-- A whole number as an argument of the parser library. -/
def wholeNumber : Thing → Except Fault Int
  | value (.int n) => .ok n
  | value (.bool b) => .ok (if b then 1 else 0)
  | _ => .error .refused

/-- A text as an argument of the parser library. -/
def givenText : Thing → Except Fault String
  | value (.text s) => .ok s
  | _ => .error .refused

/-- A text, or nothing, as an argument of the parser library. -/
def givenText? : Thing → Except Fault (Option String)
  | value (.text s) => .ok (some s)
  | value .null => .ok none
  | _ => .error .refused

/-- A file as an argument of the parser library. -/
def givenFile : Thing → Except Fault String
  | file name => .ok name
  | _ => .error .refused

/-- Whether an argument counts as true. -/
def truthy : Option Thing → Bool
  | some (value v) => v.truthy
  | some (list items) => !items.isEmpty
  | some _ => true
  | none => false

end Thing

end GirDoc.Ast
