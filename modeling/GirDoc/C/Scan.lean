import GirDoc.C.Declaration
import GirDoc.C.Macro
import GirDoc.Extract.Item
import GirDoc.Text.Glob
import GirDoc.Text.Slice

/-!
# Scanning C sources

A scan goes through the syntax trees of sources and requests a symbol for every declaration in them, then
through their text for comments and macros. The files that a source includes are gone through with it if
they are to be scanned too; no file is gone through twice.
-/

namespace GirDoc.C

open Ast Session

/-- What is to be scanned. -/
structure Plan where
  files : List String
  options : List String := []
  /-- Whether only the syntax trees are gone through. -/
  treesOnly : Bool := false
  /-- The patterns of the files whose trees are gone through. -/
  patterns : List String := ["*.h"]
  /-- The files of the project, where types can be documented. -/
  sources : List String := []

/-! ## Walking a syntax tree -/

/-- The node that a node leads to: that of a reference to a type is the definition of the type, if it is
in one of the files. -/
def target? (files : List String) (u : SourceUnit) (node : CursorRef) :
    Except Fault (Option CursorRef) := do
  if (← u.cursorKind node) = typeRefKind then
    match (u.cursor node).definition.notNull? with
    | none => pure none
    | some d => pure (if fileName (u.cursor d) ∈ files then some d else none)
  else pure (some node)

/-- The function that a node declares. In a header that is a declaration, elsewhere a body. -/
def functionNode? (u : SourceUnit) (node : CursorRef) : Except Fault (Option CursorRef) := do
  match (u.cursor node).file with
  | none => pure none
  | some file =>
    let kind ← u.cursorKind node
    if file.endsWith ".h" then pure (if kind = functionDecl then some node else none)
    else if kind ≠ compoundStmt then pure none
    else match (u.cursor node).parent.notNull? with
      | none => throw .noSuchPart
      | some p => pure (if (← u.cursorKind p) = functionDecl then some p else none)

/-- Whether a symbol of that name was found. -/
def isFound (name : String) : Doc Bool := do
  return ((← get).scanner.found.lookup name).isSome

/-- The symbol of a declaration that is no function. Unnamed structures and enumerations have none of
their own. -/
def declaredByKind (owner : Owner) (sources : List String) (u : SourceUnit) (node : CursorRef) :
    Doc SymbolSlot := do
  let d := u.cursor node
  let kind ← Attempt.ofExcept (u.cursorKind node)
  if kind = varDecl then exportedVariable owner u node
  else if kind = typedefDecl then typedefinition owner sources u node
  else if kind = structDecl && !d.spelling.isEmpty then struct owner u node d.spelling
  else if kind = enumDecl && !d.spelling.isEmpty then enumeration owner u node d.spelling
  else return none

/-- The symbol of what a node declares, if it declares something. -/
def declared (owner : Owner) (sources : List String) (u : SourceUnit) (node : CursorRef) :
    Doc SymbolSlot := do
  match ← Attempt.ofExcept (functionNode? u node) with
  | none => declaredByKind owner sources u node
  | some f =>
    if ← isFound (u.cursor f).spelling then declaredByKind owner sources u node
    else function owner u f

/-- Notes a symbol as found, if there is one. -/
def noteFound : SymbolSlot → Doc Unit
  | none => return
  | some id => do
    let name := ((← symbol id).uniqueName).getD "None"
    modify fun s =>
      { s with scanner := { s.scanner with found := Value.put s.scanner.found name id } }

/-- Goes into a node: notes what it declares, and gives the nodes below it. A node whose name was found
before is passed over. -/
def enter (owner : Owner) (plan : Plan) (u : SourceUnit) (node : CursorRef) : Doc (List CursorRef) := do
  match ← Attempt.ofExcept (target? plan.files u node) with
  | none => return []
  | some node =>
    if ← isFound (u.cursor node).spelling then return []
    noteFound (← declared owner plan.sources u node)
    return u.children node

/-- Goes through one node and all below it, at most `depth` levels. -/
def walk (owner : Owner) (plan : Plan) (u : SourceUnit) : (depth : Nat) → CursorRef → Doc Unit
  | 0, _ => throw .tooDeep
  | depth + 1, node => do
    (← enter owner plan u node).forM (walk owner plan u depth)

/-- How deep a walk can go before it goes round in circles: it meets no node twice as long as no symbol
is found and none is left out. -/
def walkDepth (u : SourceUnit) (x : Gir.Index) : Nat :=
  u.cursors.size * (u.cursors.size + x.superfluous.length + 2) + 1

/-- Goes through the nodes of a file, unless that was done before. -/
def walkFile (owner : Owner) (plan : Plan) (u : SourceUnit) (file : String) : Doc Unit := do
  if file ∈ (← get).scanner.parsed then return
  modify fun s => { s with scanner := { s.scanner with parsed := s.scanner.parsed ++ [file] } }
  if file ∉ plan.files then return
  debug ("scanning " ++ file)
  if !u.knows file then throw .broken
  let _ ← Attempt.ofExcept (((← given).files.find file).mapError Fault.ofPath)
  let depth := walkDepth u (← get).index
  ((u.annotated.lookup file).getD []).forM (walk owner plan u depth)

/-! ## The files of a scan -/

/-- Reports the diagnostics of a unit. Each is formatted twice. -/
def reportDiagnostics (u : SourceUnit) : Doc Unit :=
  u.diagnostics.forM fun d => do
    note (.format 11)
    note (.format 11)
    warn "clang-diagnostic" ("Clang issue : " ++ d.format)

/-- Adds a file to those that are guarded against repeated inclusion, if it is. -/
def addGuarded (u : SourceUnit) (guarded : List String) (file : String) :
    Doc (List String) := do
  if !u.knows file then throw .broken
  return if file ∈ u.guarded then guarded ++ [file] else guarded

/-- Goes through the trees of a file and of the files that it includes; `guarded` are the guarded files
so far. -/
def scanTree (owner : Owner) (plan : Plan) (arguments : List String) (guarded : List String)
    (file : String) : Doc (List String) := do
  if file ∈ (← get).scanner.parsed then return guarded
  if !plan.patterns.any (Text.Glob.covers · file) then return guarded
  debug ("scanning " ++ file)
  let u ← parseUnit file arguments 3
  reportDiagnostics u
  walkFile owner plan u file
  let guarded ← addGuarded u guarded file
  u.includedFiles.foldlM (fun guarded included => do
    let path := Path.absolute included
    let more ← addGuarded u guarded path
    walkFile owner plan u path
    return if path ∈ plan.files then more else guarded) guarded

/-- Adds the comment that a piece of source is, if it documents something. -/
def scanComment (file : String) (lines : List String) (item : Extract.Item String) :
    Doc Unit := do
  let line ← Attempt.need .outOfRange (Text.item? lines ((item.firstLine : Int) - 1))
  let text := SourceLines.indent line ++ item.text
  let env ← given
  note (.readComment text file item.firstLine item.lastLine env.project.includePaths)
  match env.readComment text file item.firstLine item.lastLine env.project.includePaths with
  | none => return
  | some comment => addComment comment

/-- Goes through comments and definitions of a file. `skips` tells whether the next definition is only
a guard. -/
def scanItems (owner : Owner) (file : String) (lines : List String) :
    (skips : Bool) → List (Extract.Item String) → Doc Unit
  | _, [] => return
  | skips, item :: rest => do
    match item.kind with
    | .comment =>
      scanComment file lines item
      scanItems owner file lines skips rest
    | .definition =>
      if !skips && file.endsWith ".h" then
        let _ ← macroSymbol owner item.text file item.firstLine
      scanItems owner file lines false rest

/-- Goes through the text of a file. -/
def scanText (owner : Owner) (guarded : List String) (file : String) : Doc Unit := do
  let bytes ← Attempt.ofExcept (((← given).files.read file).mapError Fault.ofPath)
  debug ("Getting comments in " ++ file)
  let lines := SourceLines.decoded bytes
  let items ← Attempt.need .brokenComment (Extract.extract (String.join lines))
  scanItems owner file lines (file ∈ guarded) items

/-- The directory of the headers that belong to the compiler. -/
def compilerHeaders : Doc (Option String) := do
  let env ← given
  let dirs := ["lib", "lib64"].map fun lib =>
    Path.joinAll (Compiler.said env.compiler.base)
      [lib, "clang", Compiler.said env.compiler.version, "include"]
  match dirs.find? env.files.pathExists with
  | some dir => return some dir
  | none =>
    warn "clang-headers-not-found"
      ("Did not find clang headers. Please report a bug with the output of the'llvm-config "
        ++ "--version' and 'llvm-config --prefix' commands")
    return none

/-- Scans sources. -/
def scan (owner : Owner) (plan : Plan) : Doc Unit := do
  loadLibrary
  info ("scanning " ++ toString plan.files.length ++ " C source files")
  let headers ← compilerHeaders
  let arguments := "-Wno-attributes" :: ("-isystem" ++ headers.getD "None") :: plan.options
  modify fun s => { s with scanner := {} }
  debug ("CFLAGS " ++ " ".intercalate arguments)
  let guarded ← plan.files.foldlM (scanTree owner plan arguments) []
  if !plan.treesOnly then plan.files.forM (scanText owner guarded)

/-- The names of the symbols found, sorted. -/
def foundNames (s : Session) : List String :=
  (s.scanner.found.map Prod.fst).mergeSort fun a b => decide (a ≤ b)

end GirDoc.C
