import GirDoc.Ast.Thing

/-!
# Parts of nodes and types

What nodes, types, their kinds, tokens and places in files can be asked for.
-/

namespace GirDoc.Ast

namespace Cursor

/-- The argument of a template that a question is about. -/
def askedTemplate (u : SourceUnit) (c : Cursor) : Arguments → Except Fault TemplateArgument
  | [some i] => do return c.templateArgument u (← i.wholeNumber)
  | _ => .error .wrongType

/-- A part of a node. -/
def part (u : SourceUnit) (c : Cursor) (p : Part) (args : Arguments) : Except Fault Thing := do
  let d := c.data u
  match p with
  | .kind => return .kind (← c.kind u)
  | .spelling => return .text d.spelling
  | .display => return .text d.display
  | .mangled => return .text d.mangled
  | .location => return .location (c.location u)
  | .extent => return .range (c.extent u) (some c)
  | .storage => return .kind (← c.storageClass u)
  | .access => return .kind (← c.accessSpecifier u)
  | .type => return .type (← c.type u)
  | .canonical => return .cursor? (← c.neighbour d.canonical)
  | .resultType => return .type (← c.resultType u)
  | .underlying => return .type (← c.underlyingType u)
  | .integerType => return .type (← c.integerType u)
  | .enumValue => return .int (← c.enumValue u)
  | .encoding => return .text d.objcEncoding
  | .hash => return .int (asWord d.hash)
  | .parent => return .cursor? (← c.neighbour d.parent)
  | .lexicalParent => return .cursor? (← c.neighbour d.lexicalParent)
  | .unit => if c.tied then return .unit true else throw .noSuchPart
  | .referenced => return .cursor? (← c.counterpart d.referenced)
  | .brief => return .text? d.briefComment
  | .raw => return .text? d.rawComment
  | .definition => return .cursor? (← c.counterpart d.definition)
  | .usr => return .text d.usr
  | .argumentNodes => return .stream ((← c.arguments u).map .cursor?)
  | .templateCount => return .int d.templateArguments.length
  | .templateKind =>
    return .kind (← Family.templateArgument.kind (← c.askedTemplate u args).kind)
  | .templateType => return .type (← c.ofType (← c.askedTemplate u args).type)
  | .templateValue => return .int (← c.askedTemplate u args).value
  | .templateWord =>
    return .int (SourceUnit.asUnsigned (← c.askedTemplate u args).value)
  | .children => return .stream ((c.children u).map .cursor)
  | .preorder => return .stream ((← c.preorder u).map .cursor)
  | .tokens => return .stream ((← c.tokens u).map .token)
  | .fieldOffset => return .int d.fieldOffset
  | .bitWidth => return .int d.bitWidth
  | .anonymous => return .bool (← c.isAnonymous u)
  | .holds property => return .bool (c.has u property)
  | _ => throw .noSuchPart

end Cursor

namespace TypeRef

/-- A part of a type. -/
def part (u : SourceUnit) (t : TypeRef) (p : Part) (args : Arguments) : Except Fault Thing := do
  let d := u.type t
  match p with
  | .kind => return .kind (← Family.type.kind d.kind)
  | .spelling => return .text d.spelling
  | .elementType => return .type (← u.elementType t)
  | .elementCount => return .int (← u.elementCount t)
  | .unit => return .unit true
  | .canonicalType => return .type d.canonical
  | .constQualified => return .bool d.isConst
  | .volatileQualified => return .bool d.isVolatile
  | .restrictQualified => return .bool d.isRestrict
  | .variadic => return .bool (← u.isVariadic t)
  | .pod => return .bool d.pod
  | .pointee => return .type d.pointee
  | .declaration => return .cursor? ((u.declaration? t).map fun r => { ref := r })
  | .result => return .type d.result
  | .arrayElement => return .type d.arrayElement
  | .arraySize => return .int d.arraySize
  | .classType => return .type d.classType
  | .namedType => return .type d.named
  | .align => return .int d.align
  | .size => return .int d.size
  | .offsetOf =>
    match args with
    | [some field] => return .int (u.fieldOffset t (← field.givenText))
    | _ => throw .wrongType
  | .refQualifier => return .kind (← u.refQualifier t)
  | .fields => return .stream ((u.fields t).map fun r => .cursor { ref := r })
  | _ => throw .noSuchPart

end TypeRef

/-- A part of a kind. -/
def Kind.part (u : SourceUnit) (k : Kind) (p : Part) : Except Fault Thing :=
  match p, k.family with
  | .name, _ => .ok (.text k.name)
  | .value, _ => .ok (.int k.id)
  | .number, .token => .error .noSuchPart
  | .number, _ => .ok (.int k.id)
  | .spelling, .type => .ok (.text ("kind " ++ toString k.id))
  | .declares, .cursor => .ok (.bool (isDeclarationKind k.id))
  | .inClass name, .cursor => .ok (.bool (u.inKindClass name k))
  | _, _ => .error .noSuchPart

/-- A part of a location. -/
def Location.part (l : Location) : Part → Except Fault Thing
  | .file => .ok (l.file.elim .nothing .file)
  | .line => .ok (.int l.line)
  | .column => .ok (.int l.column)
  | .offset => .ok (.int l.offset)
  | _ => .error .noSuchPart

/-- A part of a range. -/
def Range.part (r : Range) : Part → Except Fault Thing
  | .start => .ok (.location r.start)
  | .stop => .ok (.location r.stop)
  | _ => .error .noSuchPart

/-- A part of a token. -/
def Token.part (t : Token) : Part → Except Fault Thing
  | .spelling => .ok (.text t.data.spelling)
  | .kind => do return .kind (← t.kind)
  | .location => .ok (.location t.location)
  | .extent => .ok (.range t.extent none)
  | .cursor => .ok (.cursor t.cursor)
  | _ => .error .noSuchPart

/-- A part of an inclusion. -/
def Inspection.Inclusion.part (i : Inspection.Inclusion) : Part → Except Fault Thing
  | .source => .ok (.file i.source)
  | .included => .ok (.file i.included)
  | .location => .ok (.location i.location)
  | .depth => .ok (.int i.depth)
  | .isMain => .ok (.bool (i.depth = 0))
  | _ => .error .noSuchPart

end GirDoc.Ast
