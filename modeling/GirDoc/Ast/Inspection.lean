import GirDoc.Ast.Completion
import GirDoc.Ast.Cursor
import GirDoc.Ast.Diagnostic
import GirDoc.Attempt
import GirDoc.Text.Utf8

/-!
# Inspections

Looking at a unit with the parser library. The unit is parsed when it is first needed. The library is
asked to parse, to save and to complete, and what it is asked is logged.
-/

namespace GirDoc.Ast

/-! ## Unsaved files -/

/-- What is given for the contents of a file that is not saved. -/
inductive Contents where
  | text (contents : String)
  /-- Something that can be read for text. -/
  | textFile (contents : String)
  /-- Something that can be read for the bytes of a text. -/
  | byteFile (contents : String)
  /-- Anything else. -/
  | other
  deriving Repr, Inhabited

/-- A file that is not saved, as the library sees it. -/
structure Unsaved where
  name : Option String
  contents : String
  length : Nat
  deriving Repr, DecidableEq, Inhabited

/-! ## The state of an inspection -/

/-- An entry of the log. -/
inductive Event where
  | parse (file : Option String) (arguments : List String) (options : Int) (unsaved : List Unsaved)
  | reparse (count : Nat) (options : Int)
  | save (file : Option String) (options : Nat)
  | complete (file : Option String) (line column : Int) (options : Nat) (unsaved : List Unsaved)
  | format (options : Nat)
  deriving Repr, Inhabited

/-- The state of an inspection. -/
structure Inspection where
  unit : SourceUnit
  /-- The functions that the library lacks. -/
  missing : List String := []
  parsed : Bool := false
  /-- The files that were handed out, in order. -/
  files : List String := []
  log : List Event := []
  printed : List String := []
  deriving Inhabited

/-- A step of an inspection. -/
abbrev Inspect (α : Type) := Attempt Inspection α

namespace Inspection

/-- Adds an entry to the log. -/
def note (e : Event) : Inspect Unit := modify fun s => { s with log := s.log ++ [e] }

/-- Prints a line. -/
def printLine (line : String) : Inspect Unit :=
  modify fun s => { s with printed := s.printed ++ [line] }

/-- Forgets what was logged. -/
def cleared (s : Inspection) : Inspection := { s with log := [] }

/-! ## Functions of the library -/

/-- Whether the library has all of some functions. -/
def hasAll (names : List String) : Inspect Bool := do
  let missing := (← get).missing
  return names.all fun name => !missing.contains name

/-- Calls functions of the library. One that it lacks cannot be called. -/
def call (names : List String) : Inspect Unit := do
  unless ← hasAll names do throw .noSuchPart

/-! ## Files -/

/-- Hands out a file. -/
def handOut (file : String) : Inspect Unit :=
  modify fun s => if s.files.contains file then s else { s with files := s.files ++ [file] }

/-- When a file was changed: files are numbered in the order in which they are handed out. -/
def changeTime (file : String) : Inspect Nat := do
  handOut file
  return 1000 + (← get).files.idxOf file

/-- Looks up a location: its file is handed out. -/
def lookUp (l : Location) : Inspect Location := do
  match l.file with
  | some file => handOut file
  | none => pure ()
  return l

/-- A file of the unit. -/
def file (name : String) : Inspect String := do
  if (← get).unit.knows name then
    handOut name
    return name
  else throw .broken

/-- What is given for a place in a file. -/
inductive Position where
  | offset (n : Int)
  | place (line column : Int)
  | location (l : Location)
  /-- A line without a column, or not even a line. -/
  | incomplete
  /-- A line or column that is no number. -/
  | misplaced
  /-- Anything else. -/
  | other
  deriving Repr, DecidableEq, Inhabited

/-- The location at an offset in a file; it has no line and column. -/
def atOffset (file : String) (n : Int) : Location := { file, offset := (asWord n).toNat }

/-- The location at a line and column of a file; it has no offset. -/
def atPlace (file : String) (line column : Int) : Location :=
  { file, line := (asWord line).toNat, column := (asWord column).toNat }

/-- The location that a position in a file stands for; `none` if it is no position. -/
def locationAt (file : String) : Position → Except Fault (Option Location)
  | .offset n => .ok (some (atOffset file n))
  | .place line column => .ok (some (atPlace file line column))
  | .location l => .ok (some l)
  | .incomplete => .error .outOfRange
  | .misplaced => .error .refused
  | .other => .ok none

/-- The function that finds a position in a file. -/
def Position.calls : Position → List String
  | .offset _ => ["clang_getLocationForOffset"]
  | .place .. | .misplaced => ["clang_getLocation"]
  | .location _ | .incomplete | .other => []

/-- Finds a position in a file; `none` if it is no position. -/
def findPosition (file : String) (position : Position) : Inspect (Option Location) := do
  call position.calls
  Attempt.ofExcept (locationAt file position)

/-- The location at an offset, or at a line and column, of a file of the unit. -/
def locate (name : String) (position : Position) : Inspect Location := do
  let name ← file name
  match position with
  | .location _ => throw .wrongType
  | position => Attempt.need .wrongType (← findPosition name position)

/-- The range between two positions of a file of the unit. -/
def rangeBetween (name : String) (ends : List Position) : Inspect Range := do
  let name ← file name
  match ends with
  | [a, b] =>
    let start ← findPosition name a
    let stop ← findPosition name b
    let range : Range := { start := ← Attempt.need .broken start, stop := ← Attempt.need .broken stop }
    call ["clang_getRange"]
    return range
  | ends => if ends.length < 2 then throw .tooFewEnds else throw .wrongCount

/-- An inclusion of a file. -/
structure Inclusion where
  source : String
  included : String
  location : Location
  depth : Nat
  deriving Repr, Inhabited

/-- The files that the unit includes, at any depth below the main file. Those that cannot be located are
left out. -/
def inclusions : Inspect (List Inclusion) := do
  call ["clang_getInclusions"]
  let u := (← get).unit
  let canLocate ← hasAll ["clang_getInstantiationLocation"]
  let lists ← u.includes.mapM fun (file, depth) => do
    handOut file
    if 0 < depth && canLocate then
      handOut u.main
      return [{ source := u.main, included := file
                location := { file := some u.main, line := 1, column := 1 }, depth : Inclusion }]
    else return []
  return lists.flatten

/-- The file that a directive includes. -/
def includedFile (c : Cursor) : Inspect String := do
  match (c.data (← get).unit).included with
  | some file =>
    unless c.tied do throw .noSuchPart
    handOut file
    return file
  | none => throw .broken

/-! ## Units -/

/-- The unit, parsed if it was not yet. -/
def use : Inspect SourceUnit := do
  let s ← get
  unless s.parsed do
    call ["clang_createIndex", "clang_parseTranslationUnit"]
    set { s with parsed := true }
    note (.parse s.unit.main [] 0 [])
  return s.unit

/-- An unsaved file for parsing. -/
def unsavedForParsing (name : Option String) : Contents → Inspect Unsaved
  | .text contents => return { name, contents, length := contents.length }
  | .textFile contents => return { name, contents, length := contents.length }
  | .byteFile contents => return { name, contents, length := contents.utf8ByteSize }
  | .other => throw .wrongType

/-- The text of an unsaved file for completing and parsing again. What has to be read is printed. -/
def unsavedText : Contents → Inspect String
  | .text contents => return contents
  | .textFile contents => do
    printLine contents
    return contents
  | .byteFile contents => do
    printLine (Text.Quoted.encodeBytes (Text.Utf8.encode contents))
    throw .contentsNotText
  | .other => throw .noSuchPart

/-- An unsaved file for completing. -/
def unsavedForCompleting (name : Option String) (contents : Contents) : Inspect Unsaved := do
  let contents ← unsavedText contents
  return { name, contents, length := contents.length }

/-- An unsaved file for parsing again, which takes none: the text is refused. -/
def unsavedForReparsing (contents : Contents) : Inspect Unsaved := do
  let _ ← unsavedText contents
  throw .wrongType

/-- Parses a file, which has to be the main file of the unit. -/
def parse (file : Option String) (arguments : List String) (options : Int) (unsaved : List Unsaved) :
    Inspect Unit := do
  note (.parse file arguments options unsaved)
  unless file = some (← get).unit.main do throw .notParsed

/-- Reads a parsed unit from a file. -/
def load (file : String) : Inspect Unit := do
  note (.parse file [] (-1) [])
  unless file = (← get).unit.main do throw (.notLoaded file)

/-- Saves the unit. -/
def save (file : Option String) : Inspect Unit := do
  note (.save file 0)
  let code := (← get).unit.saveCode
  unless code = 0 do throw (.ofSaveCode code)

/-- What is asked for besides plain completions. -/
structure CompletionOptions where
  macros : Bool := false
  patterns : Bool := false
  remarks : Bool := false
  deriving Repr, Inhabited

/-- The options as the sum of their numbers. -/
def CompletionOptions.number (o : CompletionOptions) : Nat :=
  o.macros.toNat + 2 * o.patterns.toNat + 4 * o.remarks.toNat

/-- Completes the source at a place. -/
def complete (file : Option String) (line column : Int) (options : CompletionOptions)
    (unsaved : List Unsaved) : Inspect (Option (List Completion)) := do
  note (.complete file line column options.number unsaved)
  return (← get).unit.completions

/-- The remark on a completion, if the library can tell it. -/
def remark (c : Completion) : Inspect (Option String) := do
  if (← get).missing.contains "clang_getCompletionBriefComment" then return none else return c.brief

/-- How a completion is shown. -/
def shownCompletion (c : Completion) : Inspect String := do
  Attempt.ofExcept (c.shown (← remark c))

/-- Formats a diagnostic. -/
def format (d : Diagnostic) (options : Option Int) : Inspect String := do
  let options ← match options with
    | some n => Attempt.ofExcept (Diagnostic.checkOptions n)
    | none => do
      call ["clang_defaultDiagnosticDisplayOptions"]
      pure Diagnostic.defaultOptions
  call ["clang_formatDiagnostic"]
  note (.format options)
  call ["clang_getCString"]
  return d.format

/-! ## Compilation databases -/

/-- The compilation database of a directory. -/
def database (directory : String) : Inspect (List CompileCommand) := do
  match (← get).unit.databases.lookup directory with
  | some (.commands list) => return list
  | some (.failed code) => throw (.ofDatabaseCode code)
  | none => throw (.ofDatabaseCode 1)

/-- The commands for a file, if there are any. -/
def commandsFor? (file : String) (commands : List CompileCommand) : Option (List CompileCommand) :=
  let found := commands.filter fun c => c.file = file
  if found.isEmpty then none else some found

end Inspection

end GirDoc.Ast
