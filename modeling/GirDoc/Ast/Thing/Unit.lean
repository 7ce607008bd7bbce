import GirDoc.Ast.Thing.Calls

/-!
# Parts of units

What a unit can be asked for: to parse, to save, to complete, and for places in its files.
-/

namespace GirDoc.Ast

open Attempt (need)

namespace Thing

/-- The contents that a thing gives for an unsaved file. -/
def asContents : Thing → Contents
  | value (.text s) => .text s
  | contents c => c
  | _ => .other

/-- The position that a thing gives. -/
def asPosition (t : Thing) : Inspection.Position :=
  match t with
  | location l => .location l
  | value (.int n) => .offset n
  | value (.bool b) => .offset (if b then 1 else 0)
  | t =>
    match t.sized? with
    | some (line :: column :: _) =>
      match line.wholeNumber, column.wholeNumber with
      | .ok line, .ok column => .place line column
      | _, _ => .misplaced
    | some _ => .incomplete
    | none => .other

end Thing

/-- The unsaved files of an argument, each taken by `take`. -/
def unsavedFiles (take : Option String → Contents → Inspect Unsaved) :
    Option Thing → Inspect (List Unsaved)
  | none | some (.value .null) => return []
  | some files => do
    (← need .wrongType files.sized?).mapM fun pair => do
      match ← need .wrongType pair.sized? with
      | [.value (.text name), contents] => take (some name) contents.asContents
      | [.value .null, contents] => take none contents.asContents
      | [_, _] => throw .wrongType
      | _ => throw .wrongCount

/-- The arguments for the compiler in an argument. -/
def compilerArguments : Option Thing → Except Fault (List String)
  | none | some (.value .null) => .ok []
  | some given =>
    match given.sized? with
    | none => .error .wrongType
    | some items => items.mapM fun
      | .value (.text a) => .ok a
      | _ => .error .wrongType

/-- Parses: file, arguments for the compiler, unsaved files and options. -/
def parsed : Arguments → Inspect Thing
  | some file :: arguments :: unsaved :: options :: _ => do
    let arguments ← ofExcept (compilerArguments arguments)
    let unsaved ← unsavedFiles Inspection.unsavedForParsing unsaved
    Inspection.call (Calls.one "parseTranslationUnit")
    let options ← ofExcept (options.elim (.ok 0) Thing.wholeNumber)
    Inspection.parse (← ofExcept file.givenText?) arguments options unsaved
    return .unit false
  | _ => throw .wrongType

/-- Reads a parsed unit. -/
def loaded : Arguments → Inspect Thing
  | some file :: _ => do
    Inspection.call (Calls.one "createTranslationUnit")
    Inspection.load (← ofExcept file.givenText)
    return .unit false
  | _ => throw .wrongType

/-- Completes: file, line, column, unsaved files and what to include. -/
def completed : Arguments → Inspect Thing
  | [some file, some line, some column, unsaved, macros, patterns, remarks] => do
    let unsaved ← unsavedFiles Inspection.unsavedForCompleting unsaved
    let options : Inspection.CompletionOptions :=
      { macros := Thing.truthy macros, patterns := Thing.truthy patterns
        remarks := Thing.truthy remarks }
    Inspection.call (Calls.one "codeCompleteAt")
    let found ← Inspection.complete (← ofExcept file.givenText?) (← ofExcept line.wholeNumber)
      (← ofExcept column.wholeNumber) options unsaved
    return found.elim .nothing .completions
  | _ => throw .wrongType

/-- The tokens of an extent. Two locations cannot stand for one. -/
def tokensOf (u : SourceUnit) : Arguments → Except Fault Thing
  | [some (.value .null), extent] | [none, extent] =>
    match extent with
    | some (.range _ (some c)) => do return .stream ((← c.tokens u).map .token)
    | some (.range _ none) => .ok (.stream [])
    | _ => .error .refused
  | some locations :: _ =>
    match locations.sized? with
    | some (_ :: _ :: _) => .error .noSuchPart
    | some _ => .error .outOfRange
    | none => .error .wrongType
  | _ => .error .refused

/-- A part of a unit. -/
def SourceUnit.part (u : SourceUnit) (p : Part) (args : Arguments) : Inspect Thing := do
  match p, args with
  | .cursor, _ =>
    Inspection.call (Calls.node "getTranslationUnitCursor")
    return .cursor? (u.root.notNull?.map fun r => { ref := r })
  | .spelling, _ =>
    Inspection.call (Calls.text "getTranslationUnitSpelling")
    return .text u.main
  | .index, _ => return .index
  | .includes, _ => return .stream ((← Inspection.inclusions).map .inclusion)
  | .fileNamed, [some name] =>
    Inspection.call (Calls.one "getFile")
    return .file (← Inspection.file (← ofExcept name.givenText))
  | .locate, [some name, some position] =>
    Inspection.call (Calls.one "getFile")
    return .location (← Inspection.locate (← ofExcept name.givenText) position.asPosition)
  | .rangeBetween, [some name, some ends] =>
    Inspection.call (Calls.one "getFile")
    let name ← Inspection.file (← ofExcept name.givenText)
    let ends ← need .wrongType ends.sized?
    return .range (← Inspection.rangeBetween name (ends.map Thing.asPosition)) none
  | .diagnostics, _ => return .diagnostics .ofUnit u.diagnostics
  | .reparse, [unsaved, options] =>
    let unsaved ← unsavedFiles (fun _ => Inspection.unsavedForReparsing) unsaved
    Inspection.call (Calls.one "reparseTranslationUnit")
    let options ← ofExcept (options.elim (.ok 0) Thing.wholeNumber)
    Inspection.note (.reparse unsaved.length options)
    return .nothing
  | .save, [some file] =>
    Inspection.call (Calls.one "defaultSaveOptions" ++ Calls.one "saveTranslationUnit")
    Inspection.save (← ofExcept file.givenText?)
    return .nothing
  | .complete, args => completed args
  | .tokens, args =>
    Inspection.call (Calls.one "tokenize")
    ofExcept (tokensOf u args)
  | .fileNamed, _ | .locate, _ | .rangeBetween, _ | .reparse, _ | .save, _ => throw .wrongType
  | p, _ => ofExcept (Thing.number .units p)

end GirDoc.Ast
