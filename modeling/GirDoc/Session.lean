import GirDoc.Attempt
import GirDoc.Database
import GirDoc.Gir.Index
import GirDoc.Library

/-!
# Sessions

One run of the documentation tool over the C sources and introspection files of a project: what it was
given, what it knows so far, and what it has reported.
-/

namespace GirDoc

/-! ## What a session is given -/

/-- The compiler that the parser library belongs to. -/
structure Compiler where
  version : String := "13.0.0"
  base : String := "/llvm"
  libraries : String := "/llvm/lib"

/-- What the compiler says of itself, without the blanks around it. -/
def Compiler.said (answer : String) : String :=
  Text.trimOf (fun c => c = ' ' || (9 ≤ c.toNat && c.toNat ≤ 13)) answer

/-- The project that is documented. -/
structure Project where
  name : String := "proj"
  dataDir : String := "/share"
  includePaths : Value := .list []

/-- Reads comments: what a comment documents, if it documents something, told from its text, its file,
its first and its last line, and the paths of the project that files are included from. -/
abbrev CommentReader := (text file : String) → (first last : Nat) → (includePaths : Value) → Option Comment

/-- Reads a comment that opens with two stars as documentation of its line. -/
def CommentReader.byLine : CommentReader := fun text file first _ _ =>
  if (Text.trimStartOf (· = ' ') text).startsWith "/**" then
    some { name := some ("line " ++ toString first), description := some text, filename := some file }
  else none

/-- What a session is given and never changes. -/
structure Environment where
  files : FileTree := {}
  units : List Ast.SourceUnit := []
  compiler : Compiler := {}
  project : Project := {}
  host : Library.Host := {}
  packages : List (String × Value) := []
  /-- The source of documentation to which the page of a symbol belongs. -/
  pages : List (String × String) := []
  /-- The directories of shared data, before that of the project. -/
  dataDirs : List String := []
  cSources : List String := []
  girSources : List String := []
  readComment : CommentReader := CommentReader.byLine

/-! ## What a session reports -/

/-- An entry of the log. -/
inductive LogEntry where
  | info (message : String)
  | debug (message : String)
  | warn (code message : String)
  /-- A unit was parsed. -/
  | parse (file : String) (arguments : List String) (options : Nat)
  /-- A diagnostic was formatted. -/
  | format (options : Nat)
  /-- A comment was read. -/
  | readComment (text file : String) (first last : Nat) (includePaths : Value)
  /-- A comment was added to the database. -/
  | addComment (name description filename : Option String)

/-! ## What a session knows -/

/-- Who asks for symbols: the documentation of C, or that of introspection, which leaves some out. -/
inductive Owner where
  | c
  | introspection
  deriving Repr, DecidableEq, Inhabited

/-- The progress of scanning C sources. -/
structure Scanner where
  /-- The files whose nodes were gone through. -/
  parsed : List String := []
  /-- The symbols found, by name. -/
  found : List (String × SymbolId) := []
  deriving Inhabited

/-- The language whose names and fundamental types are used. -/
inductive Voice where
  | none
  | c
  | python
  | javascript
  deriving Repr, DecidableEq, Inhabited

/-- The state of a session. -/
structure Session where
  environment : Environment
  database : Database := .empty
  comments : List (String × Comment) := []
  library : Library.Settings := {}
  owner : Owner := .c
  flags : List String := []
  scanner : Scanner := {}
  /-- The lines of the sources that were quoted. -/
  quoted : List (String × List String) := []
  index : Gir.Index := .empty
  names : Gir.Names := {}
  /-- Whether symbols that introspection makes superfluous are left out. -/
  leavesOut : Bool := false
  /-- The symbols left out so far. -/
  leftOut : List (Option String) := []
  languages : Option (List String) := none
  language : Option String := some "c"
  voice : Voice := .none
  /-- The links gathered from installed documentation. -/
  onlineLinks : List (String × String) := []
  hasGathered : Bool := false
  /-- Whether titles of links are localized. What localized them before is disconnected first, so they
  never are twice. -/
  localizesTitles : Bool := false
  /-- How often links are localized. -/
  linkHandlers : Nat := 0
  /-- How often links are searched online while pages are formatted. -/
  searchHandlers : Nat := 0
  /-- How often symbols are prepared for formatting. -/
  symbolHandlers : Nat := 0
  log : List LogEntry := []
  requests : List Request := []
  printed : List String := []

/-- A step of a session. -/
abbrev Doc (α : Type) := Attempt Session α

namespace Session

/-- Adds an entry to the log. -/
def note (e : LogEntry) : Doc Unit := modify fun s => { s with log := s.log ++ [e] }

/-- Reports an event. -/
def info (message : String) : Doc Unit := note (.info message)

/-- Reports a detail. -/
def debug (message : String) : Doc Unit := note (.debug message)

/-- Reports something wrong that can be lived with. -/
def warn (code message : String) : Doc Unit := note (.warn code message)

/-- Prints lines. -/
def printLines (lines : List String) : Doc Unit :=
  modify fun s => { s with printed := s.printed ++ lines }

/-- What the session was given. -/
def given : Doc Environment := do return (← get).environment

/-- Forgets what was reported. -/
def cleared (s : Session) : Session := { s with log := [], requests := [], printed := [] }

/-! ## Symbols -/

/-- Adds a symbol without a name. -/
def addSymbol (symbol : Symbol) : Doc SymbolId := do
  let s ← get
  let (database, id) := s.database.add symbol
  set { s with database }
  return id

/-- Adds a typed item. -/
def addItem (kind : SymbolKind) (tokens : Option (List TypeToken)) : Doc SymbolId :=
  addSymbol { kind, tokens }

/-- The symbol of a number. -/
def symbol (id : SymbolId) : Doc Symbol := do
  Attempt.need .noSuchPart ((← get).database.get? id)

/-- The symbol in a place, which must not be empty. -/
def symbolIn (slot : SymbolSlot) : Doc Symbol := do
  symbol (← Attempt.need .noSuchPart slot)

/-- Changes a symbol. -/
def changeSymbol (id : SymbolId) (f : Symbol → Symbol) : Doc Unit :=
  modify fun s => { s with database := s.database.modify id f }

/-- An attribute of introspection of a symbol; null if it is not there. A plain value has no attributes. -/
def attributeOf (s : Symbol) (key : String) : Doc Value :=
  if s.takesAttributes then return s.attributeValue key else throw .noSuchPart

/-- Sets an attribute of introspection of a symbol. -/
def setAttribute (id : SymbolId) (key : String) (a : Attribute) : Doc Unit := do
  unless (← symbol id).takesAttributes do throw .noSuchPart
  changeSymbol id (·.setAttribute key a)

/-- Sets a piece of the content of a symbol. A plain value takes no content. -/
def setContent (id : SymbolId) (key : String) (v : Value) : Doc Unit := do
  if ((← symbol id).plain.lookup "extension_contents").isSome then throw .wrongType
  changeSymbol id (·.setContent key v)

/-- Removes a piece of the content of a symbol. -/
def dropContent (id : SymbolId) (key : String) : Doc Unit := do
  match (← symbol id).plain.lookup "extension_contents" with
  | some (.list _) => throw .wrongType
  | some _ => throw .noSuchPart
  | none => changeSymbol id (·.dropContent key)

/-- Serves a request for a symbol of C. -/
def requestPlain (kind : SymbolKind) (details : List Detail) : Doc SymbolId := do
  let r : Request := { kind, details := details ++ [.language "c"] }
  modify fun s => { s with requests := s.requests ++ [r] }
  let key ← Attempt.need .wrongType r.key?
  let s ← get
  let (database, id) := s.database.serve key r
  set { s with database }
  return id

/-! ## Comments -/

/-- The comments with one more, under its name. One without a name is never looked for. -/
def keepComment (comments : List (String × Comment)) (c : Comment) : List (String × Comment) :=
  c.name.elim comments (Value.put comments · c)

/-- Adds a comment to the database. -/
def addComment (c : Comment) : Doc Unit := do
  note (.addComment c.name c.description c.filename)
  modify fun s => { s with comments := keepComment s.comments c }

/-- The comment of a name. -/
def comment? (name : String) : Doc (Option Comment) := do
  return (← get).comments.lookup name

/-! ## The parser library -/

/-- Prepares the parser library, unless it is loaded already: it is looked for beside its compiler, and
functions that it lacks are no error. -/
def prepareLibrary : Doc Unit := do
  let s ← get
  if s.library.loaded then return
  let dir := Compiler.said s.environment.compiler.libraries
  let path := if s.environment.files.pathExists dir then .text dir else s.library.path
  set { s with library := { s.library with path, check := .bool false } }

/-- Loads the parser library. -/
def loadLibrary : Doc Unit := do
  let s ← get
  match s.library.load s.environment.host with
  | .ok library => set { s with library }
  | .error e => throw (.library (e.message?.getD ""))

/-- Parses a file into its unit. -/
def parseUnit (file : String) (arguments : List String) (options : Nat) :
    Doc Ast.SourceUnit := do
  note (.parse file arguments options)
  Attempt.need .notParsed ((← given).units.find? (·.main = file))

/-- A new session. -/
def ofEnvironment (environment : Environment) (comments : List (String × Comment))
    (leavesOut : Bool) : Session :=
  let s : Session := { environment, comments, leavesOut }
  (prepareLibrary.start s).2

end Session

end GirDoc
