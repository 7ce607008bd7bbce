import GirDoc.Gir.Filter
import GirDoc.PublicFields
import GirDoc.SourceLines

/-!
# Symbols of C declarations

The symbol that documents a declaration: a function, a variable, a structure, an enumeration, a callback
or another name for a type.
-/

namespace GirDoc.C

open Ast Session

/-- The name of the file of a node. -/
def fileName (d : CursorData) : String := d.file.getD "None"

/-- The lines of a source. What was read once is not read again. -/
def quotedLines (file : String) : Doc (List String) := do
  match (← get).quoted.lookup file with
  | some lines => return lines
  | none =>
    match SourceLines.quotable (← given).files file with
    | .error e => throw (.ofEncoding e)
    | .ok none => return []
    | .ok (some lines) =>
      modify fun s => { s with quoted := (file, lines) :: s.quoted }
      return lines

/-- The lines of the source from the first to the last of a node. -/
def sourceLines (d : CursorData) : Doc (List String) := do
  if d.lastLine < d.firstLine then return []
  return SourceLines.range (← quotedLines (fileName d)) d.firstLine d.lastLine

/-- The written name of a type. -/
def typeTokens (u : SourceUnit) (t : TypeRef) : Doc (List TypeToken) :=
  Attempt.ofExcept (TypeName.tokens u t)

/-- A typed item of a type. -/
def typedItem (u : SourceUnit) (kind : SymbolKind) (t : TypeRef) : Doc SymbolId := do
  addItem kind (some (← typeTokens u t))

/-- A parameter: its name is that of its node. -/
def parameter (u : SourceUnit) (node : CursorRef) : Doc SymbolId := do
  let d := u.cursor node
  addSymbol { kind := .parameter, tokens := some (← typeTokens u d.type), argName := some d.display }

/-- The details that place a symbol in its source. -/
def placed (name : String) (d : CursorData) : List Detail :=
  [.displayName (some name), .filename (some (fileName d)), .line d.line]

/-- The symbol of a function. -/
def function (owner : Owner) (u : SourceUnit) (node : CursorRef) : Doc SymbolSlot := do
  let d := u.cursor node
  let result ← typedItem u .returnItem (u.type d.type).result
  let parameters ← (d.arguments.getD []).mapM fun a => do
    parameter u (← Attempt.need .noSuchPart a.notNull?)
  request owner .function ([.parameters (parameters.map some), .returnValue [some result]]
    ++ placed d.spelling d ++ [.extentStart d.firstLine, .extentEnd d.lastLine])

/-- The symbol of a variable. -/
def exportedVariable (owner : Owner) (u : SourceUnit) (node : CursorRef) : Doc SymbolSlot := do
  let d := u.cursor node
  let _ ← quotedLines (fileName d)
  let text := "\n".intercalate (← sourceLines d)
  let type ← typedItem u .qualified d.type
  request owner .exportedVariable
    ([.definitionText text] ++ placed d.spelling d ++ [.variableType type])

/-- The marks of public and private sections among the tokens of a structure. -/
def sectionMarks (tokens : List TokenData) : Except Fault (List PublicFields.Mark) := do
  let marks ← tokens.mapM fun t => do
    let kind ← Family.token.kind t.kind
    pure (if kind.name = "COMMENT" then PublicFields.markOf? t.spelling t.line else none)
  pure (marks.filterMap id)

/-- The symbol of a field of a structure. -/
def field (owner : Owner) (u : SourceUnit) (struct : String) (file : String)
    (node : CursorRef) : Doc SymbolSlot := do
  let d := u.cursor node
  let tokens ← typeTokens u d.type
  let isPointer ← Attempt.ofExcept (u.isFunctionPointer d.type)
  let type ← addItem .qualified (some tokens)
  let name := struct ++ "." ++ d.spelling
  request owner .field [.isFunctionPointer isPointer, .memberName d.spelling, .fieldType type,
    .filename (some file), .displayName (some name), .uniqueName name]

/-- The public text of a structure, and the nodes of its public fields. -/
def publicPart (u : SourceUnit) (node : CursorRef) : Doc (String × List CursorRef) := do
  let d := u.cursor node
  let content ← sourceLines d
  let marks ← Attempt.ofExcept (sectionMarks d.tokens)
  let fields := (u.children node).map fun c => (c, (u.cursor c).line)
  return PublicFields.publicFields d.firstLine content marks fields

/-- The symbol of a structure under a name. -/
def struct (owner : Owner) (u : SourceUnit) (node : CursorRef) (name : String) :
    Doc SymbolSlot := do
  let d := u.cursor node
  let (text, kept) ← publicPart u node
  let members ← kept.mapM (field owner u name (fileName d))
  request owner .struct ([.rawText (if kept.isEmpty then none else some text), .members members,
    .anonymous d.spelling.isEmpty] ++ placed name d)

/-- The symbol of a constant of an enumeration. -/
def enumConstant (owner : Owner) (u : SourceUnit) (node : CursorRef) : Doc SymbolSlot := do
  let d := u.cursor node
  let value ← Attempt.ofExcept (u.enumValue node)
  let id ← Attempt.need .noSuchPart (← request owner .plain (placed d.spelling d))
  changeSymbol id fun s => { s.dropPlain "enum_value" with enumValue := some value }
  return some id

/-- The symbol of an enumeration under a name. -/
def enumeration (owner : Owner) (u : SourceUnit) (node : CursorRef) (name : String) :
    Doc SymbolSlot := do
  let d := u.cursor node
  let members ← (u.children node).mapM (enumConstant owner u)
  let text := "\n".intercalate (← sourceLines d)
  request owner .enumeration ([.members members, .anonymous d.spelling.isEmpty,
    .rawText (some text)] ++ placed name d)

/-- The symbol of a type of callbacks. The first child of its node stands for the result, all others
for parameters. -/
def callback (owner : Owner) (u : SourceUnit) (node : CursorRef) : Doc SymbolSlot := do
  let d := u.cursor node
  let (result, parameters) ← match u.children node with
    | [] => do pure (← addItem .returnItem (some []), [])
    | _ :: rest => do
      let result ← typedItem u .returnItem (u.type (u.type d.underlying).pointee).result
      pure (result, ← rest.mapM (parameter u))
  request owner .callback ([.parameters (parameters.map some), .returnValue [some result]]
    ++ placed d.spelling d)

/-- Requests the symbol of another name for a type. `sources` are the files of the project: a type that
is declared in one of them is documented there. -/
def otherName (owner : Owner) (sources : List String) (u : SourceUnit) (node : CursorRef) :
    Doc Unit := do
  let d := u.cursor node
  let type ← Attempt.ofExcept (u.underlyingType node)
  let aliased ← typedItem u .qualified type
  let declaration ← Attempt.ofExcept (u.declaration type)
  let extra := match (u.cursor declaration).file with
    | some file => if file ∈ sources then [("implementation_filename", Value.text file)] else []
    | none => []
  let _ ← request owner .otherName ([.aliasedType aliased] ++ placed d.spelling d ++ [.extra extra])

/-- The symbol of a type definition. Another name for a type gives none that is noted. -/
def typedefinition (owner : Owner) (sources : List String) (u : SourceUnit)
    (node : CursorRef) : Doc SymbolSlot := do
  let d := u.cursor node
  let type ← Attempt.ofExcept (u.underlyingType node)
  if ← Attempt.ofExcept (u.isFunctionPointer type) then callback owner u node
  else
    let declaration ← Attempt.ofExcept (u.declaration type)
    if (u.cursor declaration).spelling.isEmpty then
      let kind ← Attempt.ofExcept (u.cursorKind declaration)
      if kind = structDecl then
        return ← struct owner u declaration d.spelling
      else if kind = enumDecl then
        return ← enumeration owner u declaration d.spelling
    otherName owner sources u node
    return none

end GirDoc.C
