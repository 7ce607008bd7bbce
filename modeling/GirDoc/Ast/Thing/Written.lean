import GirDoc.Ast.Thing.Ask

/-!
# Written things

Things and the log of an inspection as values.
-/

namespace GirDoc.Ast

/-- A value under a name of its sort. -/
def labelled (sort : String) (v : Value) : Value := .dict [(sort, v)]

/-- The written form of a file. -/
def writtenFile (name : String) : Value := labelled "file" (.text name)

namespace Location

/-- The written form of a location, which is looked up. -/
def written (l : Location) : Inspect Value := do
  let l ← Inspection.lookUp l
  return labelled "loc" (.list [l.file.elim .null writtenFile, .ofNat l.line, .ofNat l.column,
    .ofNat l.offset])

end Location

/-- The written form of a reference to a node. -/
def CursorRef.written : CursorRef → Value
  | null => labelled "cursor" (.text "null")
  | noDecl => labelled "cursor" (.text "nodecl")
  | node i => labelled "cursor" (.ofNat i)

/-- The written form of a reference to a type. -/
def TypeRef.written : TypeRef → Value
  | invalid => labelled "type" .null
  | type i => labelled "type" (.ofNat i)

/-- The written form of a compile command. -/
def CompileCommand.written (c : CompileCommand) : Value :=
  labelled "command" (.list [.text c.directory, .text c.file, .ofTexts c.arguments])

namespace Thing

/-- The written form of a thing that holds no others. -/
def writtenAlone (t : Thing) : Inspect Value := do
  Inspection.call t.writtenCalls
  match t with
  | value v => return v
  | cursor c => return c.ref.written
  | type t => return t.written
  | location l => l.written
  | range r _ => return labelled "range" (.list [← r.start.written, ← r.stop.written])
  | file name => return writtenFile name
  | token t =>
    let kind ← ofExcept t.kind
    return labelled "token" (.list [.text kind.shown, .text t.data.spelling, ← t.location.written])
  | unit _ => return labelled "tu" (.text (← get).unit.main)
  | inclusion i =>
    return labelled "inclusion" (.list [writtenFile i.source, writtenFile i.included,
      ← i.location.written, .ofNat i.depth, .bool (i.depth = 0)])
  | held s => return labelled "string" (.ofText? s)
  | command c => return c.written
  | index => return labelled "object" (.text "Index")
  | completions _ => return labelled "object" (.text "CodeCompletionResults")
  | database _ => return labelled "object" (.text "CompilationDatabase")
  | settings => return labelled "object" (.text "Config")
  | group _ => return labelled "object" (.text "type")
  | object sort => return labelled "object" (.text sort)
  | t => return .text (← t.shown)

mutual

/-- The written form of a thing. -/
def written : Thing → Inspect Value
  | list items => do return .list (← writtenItems items)
  | stream items => do return .list (← writtenItems items)
  | diagnostics owner all => writtenCounted (diagnostics owner all)
  | ranges d => writtenCounted (ranges d)
  | fixIts d => writtenCounted (fixIts d)
  | results all => writtenCounted (results all)
  | commands all => writtenCounted (commands all)
  | t => writtenAlone t

/-- The written forms of things. -/
def writtenItems : List Thing → Inspect (List Value)
  | [] => return []
  | t :: rest => do return (← written t) :: (← writtenItems rest)

/-- The written form of a thing by what is in it, all of which has to be there. -/
def writtenCounted (t : Thing) : Inspect Value := do
  Inspection.call (t.countCalls ++ t.itemCalls)
  return .list (← (t.counted?.getD []).mapM fun item => do writtenAlone (← ofExcept item))

end

end Thing

/-- The written form of an unsaved file. -/
def Unsaved.written (u : Unsaved) : Value :=
  .list [.ofText? u.name, .text u.contents, .ofNat u.length]

/-- The written form of an entry of the log. -/
def Event.written : Event → Value
  | parse file arguments options unsaved =>
    .list ([.text "parse", .ofText? file, .ofTexts arguments, .int options]
      ++ if unsaved.isEmpty then [] else [.list (unsaved.map Unsaved.written)])
  | reparse count options => .list [.text "reparse", .ofNat count, .int options]
  | save file options => .list [.text "save", .ofText? file, .ofNat options]
  | complete file line column options unsaved =>
    .list [.text "complete", .ofText? file, .int line, .int column, .ofNat options,
      .list (unsaved.map Unsaved.written)]
  | format options => .list [.text "format", .ofNat options]

end GirDoc.Ast
