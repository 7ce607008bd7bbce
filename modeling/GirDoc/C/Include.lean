import GirDoc.C.Scan

/-!
# Including sources in documentation

A page can include the source of a symbol, or some lines of it. The symbol is looked up in its file,
which is scanned for it if need be.
-/

namespace GirDoc.C

open Session

/-- The flags of a configuration, with one for each directory of headers. -/
def configure (config : List (String × Value)) : Doc (List String) := do
  let packages := (← given).packages
  let flags ← Attempt.ofExcept ((Options.flags packages config).mapError Fault.ofOptions)
  modify fun s => { s with flags }
  let dirs ← Attempt.ofExcept
    ((Options.settingItems config "c_include_directories").mapError Fault.ofOptions)
  let flags := flags ++ dirs.map fun d => "-I" ++ d.display
  modify fun s => { s with flags }
  return flags

/-- Scans the sources of the project. -/
def setup : Doc Unit := do
  let s ← get
  let sources := s.environment.cSources
  scan s.owner { files := sources, options := s.flags, sources }

/-! ## Ranges of lines -/

/-- An end of a slice of lines. -/
inductive Bound where
  | line (n : Int)
  /-- Where the lines end. -/
  | atEnd
  /-- No whole number of lines. -/
  | broken
  deriving Repr, DecidableEq

namespace Bound

/-- The bound that a number stands for; what is no number stands for none. -/
def ofNumber : Value → Except Fault Bound
  | .int n => .ok (.line n)
  | .bool b => .ok (.line (if b then 1 else 0))
  | .real _ => .ok .broken
  | _ => .error .wrongType

/-- The bound that any value stands for. -/
def ofValue (v : Value) : Bound :=
  match v, ofNumber v with
  | .null, _ => .atEnd
  | _, .ok b => b
  | _, .error _ => .broken

/-- A bound some lines on from another. -/
def add : Bound → Bound → Int → Bound
  | line m, line n, k => .line (m + n + k)
  | _, _, _ => .broken

/-- The number of a bound in a text of so many lines. -/
def place (count : Nat) : Bound → Except Fault Int
  | line n => .ok n
  | atEnd => .ok count
  | broken => .error .wrongType

end Bound

/-- Whether a number is above zero. -/
def isPositive : Value → Bool
  | .int n => 0 < n
  | .real written => !written.startsWith "-" && (Value.real written).truthy
  | v => v.truthy

/-- A line of the extent of a symbol, as it was given; some symbols have no extent. -/
def extentLine (s : Symbol) (word : String) (line : Option Int) : Except Fault Value :=
  match s.plain.lookup word, line with
  | some v, _ => .ok v
  | none, some n => .ok (.int n)
  | none, none => .error .noSuchPart

/-- The slice of a file that a range of the lines of a symbol stands for. A range counts from the first
line of the symbol; one whose end is not above zero goes to the end of the symbol. -/
def rangeBounds (symbol : Symbol) (range : Value × Value) : Except Fault (Bound × Bound) := do
  let first ← Bound.ofNumber (← extentLine symbol "extent_start" symbol.extentStart)
  let start ← Bound.ofNumber range.1
  let stop ← Bound.ofNumber range.2
  let start := start.add first (-2)
  if isPositive range.2 then return (start, stop.add first (-1))
  return (start, .ofValue (← extentLine symbol "extent_end" symbol.extentEnd))

/-- The two ends of a range. -/
def rangeEnds (range : Value) : Except Fault (Value × Value) := do
  match ← (Options.itemsOf range).mapError Fault.ofOptions with
  | [start, stop] => return (start, stop)
  | _ => throw .wrongCount

/-- The lines of a text in a slice. -/
def cutLines (text : String) (bounds : Bound × Bound) : Except Fault String := do
  let lines := Text.splitAll '\n' text
  let first ← bounds.1.place lines.length
  let last ← bounds.2.place lines.length
  return "\n".intercalate (Text.slice lines first last)

/-- The source of a symbol in the ranges given, with a line of dots between them. -/
def snippet (symbol : Symbol) (path : String) (ranges : List Value) : Doc String := do
  let files := (← given).files
  let pieces ← ranges.mapM fun range => Attempt.ofExcept do
    let bounds ← rangeBounds symbol (← rangeEnds range)
    let text ← (files.readText path).mapError Fault.ofRead
    cutLines text bounds
  return "\n...\n".intercalate pieces

/-! ## Including -/

/-- All lines of a symbol as a range. -/
def wholeRange : Value := .list [.int 1, .int (-1)]

/-- The symbol of a name in a file; the file is scanned if the symbol known by that name is another. -/
def symbolOf? (path name : String) : Doc (Option Symbol) := do
  let known := (← get).database.symbol? name
  match known.filter fun s => s.filename = some path with
  | some s => return some s
  | none =>
    prepareLibrary
    let flags := (← get).flags
    scan .c { files := [path], options := flags, treesOnly := true, patterns := ["*.c", "*.h"] }
    return (← get).database.symbol? name

/-- The source of a symbol for a page: nothing for what is no C source, or if there is no such symbol,
or no such lines. -/
def include? (path : String) (ranges : Value) (name : String) : Doc (Option String) := do
  if !path.endsWith ".c" || name.isEmpty then return none
  match ← symbolOf? path name with
  | none =>
    warn "bad-c-inclusion"
      ("Trying to include symbol " ++ name ++ " but could not be found in " ++ path)
    return none
  | some symbol =>
    let ranges ← if ranges.truthy
      then Attempt.ofExcept ((Options.itemsOf ranges).mapError Fault.ofOptions)
      else pure [wholeRange]
    let text ← snippet symbol path ranges
    return if text.isEmpty then none else some text

/-- A piece of source as a page shows it. -/
structure Listing where
  text : String
  /-- The language that it is written in. -/
  language : String
  deriving Repr, DecidableEq

/-- The source of a symbol, as a page that includes it shows it. -/
def listing? (path : String) (ranges : Value) (name : String) : Doc (Option Listing) := do
  return (← include? path ranges name).map fun text => { text, language := "c" }

end GirDoc.C
