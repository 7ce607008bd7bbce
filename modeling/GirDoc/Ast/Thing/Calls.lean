import GirDoc.Ast.Thing

/-!
# Functions behind parts

Which functions of the parser library are called for a part of a thing. A text comes from two functions, as
the library keeps its texts; a node is compared with the null node before it is handed out.
-/

namespace GirDoc.Ast

namespace Calls

/-- A function, by its name without the common beginning. -/
def one (name : String) : List String := ["clang_" ++ name]

/-- A function that gives a text. -/
def text (name : String) : List String := one name ++ one "getCString"

/-- The functions that tell whether a node is null. -/
def nullTest : List String := one "getNullCursor" ++ one "equalCursors"

/-- A function that gives a node. -/
def node (name : String) : List String := one name ++ nullTest

/-- The name of a file. -/
def fileName : List String := text "getFileName"

/-- All that is known of a location. -/
def location (l : Location) : List String :=
  one "getInstantiationLocation" ++ if l.file.isSome then fileName else []

/-- All that is known of a range. -/
def range (r : Range) : List String :=
  one "getRangeStart" ++ one "getRangeEnd" ++ location r.start ++ location r.stop

end Calls

open Calls

/-! ## Nodes and types -/

/-- The function that tells whether a property holds of a node. -/
def propertyFunction (property : String) : String :=
  if ["isConst", "isDefaulted", "isPureVirtual", "isStatic", "isVirtual"].contains property then
    "CXXMethod_" ++ property
  else if property.endsWith "Constructor" then "CXXConstructor_" ++ property
  else if property = "isMutable" then "CXXField_" ++ property
  else if property = "isBitField" then "Cursor_" ++ property
  else property

namespace Cursor

/-- The functions that are called before a node is looked at. -/
def firstCalls (p : Part) : List String := if p = .underlying then one "isDeclaration" else []

/-- The functions for the value of an enumeration constant: its integer type decides which one gives it. -/
def valueCalls (u : SourceUnit) (d : CursorData) : List String :=
  let isEnum := (u.type d.type).kind = (enumKind : Int)
  let type := if isEnum
    then ((u.declaration? d.type).map fun r => (u.cursor r).enumType).getD d.type
    else d.type
  one "getCursorType"
    ++ (if isEnum then node "getTypeDeclaration" ++ one "getEnumDeclIntegerType" else [])
    ++ one (if unsignedKinds.any fun k => (u.type type).kind = (k : Int)
      then "getEnumConstantDeclUnsignedValue" else "getEnumConstantDeclValue")

/-- The functions for a part of a node. -/
def calls (u : SourceUnit) (c : Cursor) (p : Part) : List String :=
  let d := c.data u
  match p with
  | .spelling => text "getCursorSpelling"
  | .display => text "getCursorDisplayName"
  | .mangled => text "Cursor_getMangling"
  | .location => one "getCursorLocation"
  | .extent => one "getCursorExtent"
  | .storage => one "Cursor_getStorageClass"
  | .access => one "getCXXAccessSpecifier"
  | .type => one "getCursorType"
  | .canonical => node "getCanonicalCursor"
  | .resultType => one "getCursorType" ++ one "getResultType"
  | .underlying => one "getTypedefDeclUnderlyingType"
  | .integerType => one "getEnumDeclIntegerType"
  | .enumValue => valueCalls u d
  | .encoding => text "getDeclObjCTypeEncoding"
  | .hash => one "hashCursor"
  | .parent => node "getCursorSemanticParent"
  | .lexicalParent => node "getCursorLexicalParent"
  | .referenced => node "getCursorReferenced"
  | .brief => text "Cursor_getBriefCommentText"
  | .raw => text "Cursor_getRawCommentText"
  | .definition => node "getCursorDefinition"
  | .usr => text "getCursorUSR"
  | .argumentNodes =>
    one "Cursor_getNumArguments"
      ++ if (d.arguments.getD []).isEmpty then [] else node "Cursor_getArgument"
  | .templateCount => one "Cursor_getNumTemplateArguments"
  | .templateKind => one "Cursor_getTemplateArgumentKind"
  | .templateType => one "Cursor_getTemplateArgumentType"
  | .templateValue => one "Cursor_getTemplateArgumentValue"
  | .templateWord => one "Cursor_getTemplateArgumentUnsignedValue"
  | .children | .preorder => one "visitChildren"
  | .tokens => one "getCursorExtent" ++ one "tokenize"
  | .fieldOffset => one "Cursor_getOffsetOfField"
  | .bitWidth => one "getFieldDeclBitWidth"
  | .anonymous =>
    (if d.kind = (fieldDecl : Int) then one "getCursorType" ++ node "getTypeDeclaration" else [])
      ++ one "Cursor_isAnonymous"
  | .holds property => one (propertyFunction property)
  | _ => []

end Cursor

/-- The functions for a part of a type. -/
def TypeRef.calls : Part → List String
  | .spelling => text "getTypeSpelling"
  | .elementType => one "getElementType"
  | .elementCount => one "getNumElements"
  | .canonicalType => one "getCanonicalType"
  | .constQualified => one "isConstQualifiedType"
  | .volatileQualified => one "isVolatileQualifiedType"
  | .restrictQualified => one "isRestrictQualifiedType"
  | .variadic => one "isFunctionTypeVariadic"
  | .pod => one "isPODType"
  | .pointee => one "getPointeeType"
  | .declaration => node "getTypeDeclaration"
  | .result => one "getResultType"
  | .arrayElement => one "getArrayElementType"
  | .arraySize => one "getArraySize"
  | .classType => one "Type_getClassType"
  | .namedType => one "Type_getNamedType"
  | .align => one "Type_getAlignOf"
  | .size => one "Type_getSizeOf"
  | .offsetOf => one "Type_getOffsetOf"
  | .refQualifier => one "Type_getCXXRefQualifier"
  | .fields => one "Type_visitFields"
  | _ => []

/-- The functions for a part of a kind. -/
def Kind.calls : Part → List String
  | .spelling => text "getTypeKindSpelling"
  | .declares => one "isDeclaration"
  | .inClass name => one ("is" ++ name)
  | _ => []

/-- The functions for a part of a range. -/
def Range.calls : Part → List String
  | .start => one "getRangeStart"
  | .stop => one "getRangeEnd"
  | _ => []

/-- The functions for a part of a token. -/
def Token.calls : Part → List String
  | .spelling => text "getTokenSpelling"
  | .kind => one "getTokenKind"
  | .location => one "getTokenLocation"
  | .extent => one "getTokenExtent"
  | .cursor => one "annotateTokens"
  | _ => []

/-! ## Diagnostics, completions and commands -/

/-- The functions for a part of a diagnostic. -/
def Diagnostic.calls : Part → List String
  | .severity => one "getDiagnosticSeverity"
  | .location => one "getDiagnosticLocation"
  | .spelling => text "getDiagnosticSpelling"
  | .notes => one "getChildDiagnostics"
  | .categoryNumber => one "getDiagnosticCategory"
  | .categoryName => text "getDiagnosticCategoryText"
  | .option | .disableOption => text "getDiagnosticOption"
  | _ => []

/-- The functions for a part of a chunk. -/
def Chunk.calls (c : Chunk) : Part → List String
  | .spelling =>
    one "getCompletionChunkKind"
      ++ if (fixedText? c.kind).isSome then [] else one "getCompletionChunkText"
  | .kind | .ofKind _ => one "getCompletionChunkKind"
  | .string => one "getCompletionChunkCompletionString"
  | _ => []

/-- The functions for a part of a completion. -/
def Completion.calls : Part → List String
  | .chunkCount => one "getNumCompletionChunks"
  | .priority => one "getCompletionPriority"
  | .availability => one "getCompletionAvailability"
  | _ => []

/-- The functions for a part of a compile command. -/
def CompileCommand.calls (c : CompileCommand) : Part → List String
  | .directory => text "CompileCommand_getDirectory"
  | .fileName => text "CompileCommand_getFilename"
  | .arguments =>
    one "CompileCommand_getNumArgs"
      ++ if c.arguments.isEmpty then [] else text "CompileCommand_getArg"
  | _ => []

/-! ## Things -/

namespace Thing

/-- The functions for a part of a thing that is looked at alone. -/
def calls (u : SourceUnit) (t : Thing) (p : Part) : List String :=
  match t with
  | cursor c => c.calls u p
  | type _ => TypeRef.calls p
  | kind _ => Kind.calls p
  | location _ => one "getInstantiationLocation"
  | range _ _ => Range.calls p
  | file _ =>
    match p with
    | .name => fileName
    | .time => one "getFileTime"
    | _ => []
  | token _ => Token.calls p
  | diagnostic _ => Diagnostic.calls p
  | completion _ => Completion.calls p
  | chunk c => c.calls p
  | database _ =>
    match p with
    | .allCommands => one "CompilationDatabase_getAllCompileCommands"
    | .commandsFor => one "CompilationDatabase_getCompileCommands"
    | _ => []
  | command c => c.calls p
  | _ => []

/-- The functions that count what is in a thing. -/
def countCalls : Thing → List String
  | diagnostics .ofUnit _ => one "getNumDiagnostics"
  | diagnostics .ofDiagnostic _ => one "getNumDiagnosticsInSet"
  | diagnostics .ofCompletion _ => one "codeCompleteGetNumDiagnostics"
  | ranges _ => one "getDiagnosticNumRanges"
  | fixIts _ => one "getDiagnosticNumFixIts"
  | completion _ => one "getNumCompletionChunks"
  | commands _ => one "CompileCommands_getSize"
  | _ => []

/-- The functions that give an item of a thing. -/
def itemCalls : Thing → List String
  | diagnostics .ofUnit _ => one "getDiagnostic"
  | diagnostics .ofDiagnostic _ => one "getDiagnosticInSet"
  | diagnostics .ofCompletion _ => one "codeCompleteGetDiagnostic"
  | ranges _ => one "getDiagnosticNumRanges" ++ one "getDiagnosticRange"
  | fixIts _ => Calls.text "getDiagnosticFixIt"
  | completion _ => one "getNumCompletionChunks"
  | commands _ => one "CompileCommands_getCommand"
  | _ => []

/-- The functions for showing a chunk. -/
def chunkCalls (c : Chunk) : List String := c.calls .spelling ++ c.calls .kind

/-- The functions for showing a completion. -/
def completionCalls (c : Completion) : List String :=
  one "getNumCompletionChunks" ++ c.chunks.flatMap chunkCalls
    ++ one "getCompletionPriority" ++ one "getCompletionAvailability"

/-- The functions for showing a thing. -/
def shownCalls : Thing → List String
  | location l => Calls.location l
  | range r _ => Calls.range r
  | file _ => fileName
  | diagnostic d =>
    one "getDiagnosticSeverity" ++ one "getDiagnosticLocation" ++ Calls.location d.location
      ++ Calls.text "getDiagnosticSpelling"
  | fixIt f => Calls.range f.range
  | result c => completionCalls c
  | completion c => completionCalls c
  | chunk c => chunkCalls c
  | _ => []

/-- The functions for writing a thing that holds no others. -/
def writtenCalls : Thing → List String
  | token t => one "getTokenKind" ++ Calls.text "getTokenSpelling" ++ one "getTokenLocation"
      ++ Calls.location t.location
  | unit _ => Calls.text "getTranslationUnitSpelling"
  | inclusion i => fileName ++ Calls.location i.location
  | command c => c.calls .directory ++ c.calls .fileName ++ c.calls .arguments
  | t => t.shownCalls

mutual

/-- The functions for comparing two things. -/
def equalCalls : Thing → Thing → List String
  | cursor _, _ => one "equalCursors"
  | location _, _ => one "equalLocations"
  | range _ _, _ => one "equalRanges"
  | type _, type _ => one "equalTypes"
  | type _, _ => []
  | _, type _ => []
  | _, cursor _ => one "equalCursors"
  | _, location _ => one "equalLocations"
  | _, range _ _ => one "equalRanges"
  | list as, list bs => equalItemsCalls as bs
  | _, _ => []

/-- The functions for comparing two lists. -/
def equalItemsCalls : List Thing → List Thing → List String
  | a :: as, b :: bs => equalCalls a b ++ equalItemsCalls as bs
  | _, _ => []

end

end Thing

end GirDoc.Ast
