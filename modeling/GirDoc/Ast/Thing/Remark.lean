import GirDoc.Ast.Thing

/-!
# Parts of diagnostics and completions

What diagnostics, completions and the commands of a compilation database can be asked for.
-/

namespace GirDoc.Ast

/-- A part of a diagnostic. -/
def Diagnostic.part (d : Diagnostic) (p : Part) (args : Arguments) : Inspect Thing := do
  match p with
  | .severity => return .int d.severity
  | .location => return .location d.location
  | .spelling => return .text d.spelling
  | .ranges => return .ranges d
  | .fixIts => return .fixIts d
  | .notes => return .diagnostics .ofDiagnostic d.children
  | .categoryNumber => return .int d.category
  | .categoryName => return .text d.categoryText
  | .option => return .text d.option
  | .disableOption => return .text d.disable
  | .format =>
    match args with
    | [] | [none] | [some (.value .null)] => return .text (← Inspection.format d none)
    | [some (.value (.int n))] => return .text (← Inspection.format d (some n))
    | [some (.value (.bool b))] => return .text (← Inspection.format d (some (if b then 1 else 0)))
    | _ => throw .wrongType
  | p => ofExcept (Thing.number .diagnostics p)

/-- A part of a repair. -/
def FixIt.part (f : FixIt) : Part → Except Fault Thing
  | .range => .ok (.range f.range none)
  | .value => .ok (.text f.text)
  | _ => .error .noSuchPart

/-- A part of a completion. -/
def Completion.part (c : Completion) (p : Part) : Inspect Thing := do
  match p with
  | .chunkCount => return .int c.chunks.length
  | .priority => return .int c.priority
  | .availability => return .named (← ofExcept c.availability)
  | .remark => return .held (← Inspection.remark c)
  | _ => throw .noSuchPart

/-- A part of a completion as one of the results of completing. -/
def Completion.resultPart (c : Completion) : Part → Except Fault Thing
  | .kind => do return .kind (← Family.cursor.kind c.kind)
  | .string => .ok (.completion c)
  | _ => .error .noSuchPart

/-- A part of a chunk. -/
def Chunk.part (c : Chunk) : Part → Except Fault Thing
  | .spelling => .ok (.text? c.spelling)
  | .kind => do return .named (← c.kindName)
  | .string => .ok (c.nested.elim .nothing .completion)
  | .ofKind number => .ok (.bool (c.kind = number))
  | _ => .error .noSuchPart

/-- A part of a compile command. -/
def CompileCommand.part (c : CompileCommand) : Part → Except Fault Thing
  | .directory => .ok (.text c.directory)
  | .fileName => .ok (.text c.file)
  | .arguments => .ok (.stream (c.arguments.map .text))
  | _ => .error .noSuchPart

end GirDoc.Ast
