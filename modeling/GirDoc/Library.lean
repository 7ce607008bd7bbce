import GirDoc.Value.Basic

/-!
# The parser library

Settings for finding the library that parses C: its directory, its file and whether a function that it
lacks is an error. The settings are closed once the library is loaded.
-/

namespace GirDoc.Library

/-- The functions that are looked up when the library is loaded, in order. -/
def functions : List String := [
  "clang_annotateTokens", "clang_CompilationDatabase_dispose",
  "clang_CompilationDatabase_fromDirectory", "clang_CompilationDatabase_getAllCompileCommands",
  "clang_CompilationDatabase_getCompileCommands", "clang_CompileCommands_dispose",
  "clang_CompileCommands_getCommand", "clang_CompileCommands_getSize",
  "clang_CompileCommand_getArg", "clang_CompileCommand_getDirectory",
  "clang_CompileCommand_getFilename", "clang_CompileCommand_getNumArgs", "clang_codeCompleteAt",
  "clang_codeCompleteGetDiagnostic", "clang_codeCompleteGetNumDiagnostics", "clang_createIndex",
  "clang_createTranslationUnit", "clang_CXXConstructor_isConvertingConstructor",
  "clang_CXXConstructor_isCopyConstructor", "clang_CXXConstructor_isDefaultConstructor",
  "clang_CXXConstructor_isMoveConstructor", "clang_CXXField_isMutable", "clang_CXXMethod_isConst",
  "clang_CXXMethod_isDefaulted", "clang_CXXMethod_isPureVirtual", "clang_CXXMethod_isStatic",
  "clang_CXXMethod_isVirtual", "clang_defaultDiagnosticDisplayOptions",
  "clang_defaultSaveOptions", "clang_disposeCodeCompleteResults", "clang_disposeDiagnostic",
  "clang_disposeIndex", "clang_disposeString", "clang_disposeTokens",
  "clang_disposeTranslationUnit", "clang_equalCursors", "clang_equalLocations",
  "clang_equalRanges", "clang_equalTypes", "clang_formatDiagnostic", "clang_getArgType",
  "clang_getArrayElementType", "clang_getArraySize", "clang_getFieldDeclBitWidth",
  "clang_getCanonicalCursor", "clang_getCanonicalType", "clang_getChildDiagnostics",
  "clang_getCompletionAvailability", "clang_getCompletionBriefComment",
  "clang_getCompletionChunkCompletionString", "clang_getCompletionChunkKind",
  "clang_getCompletionChunkText", "clang_getCompletionPriority", "clang_getCString",
  "clang_getCursor", "clang_getCursorDefinition", "clang_getCursorDisplayName",
  "clang_getCursorExtent", "clang_getCursorLexicalParent", "clang_getCursorLocation",
  "clang_getCursorReferenced", "clang_getCursorReferenceNameRange",
  "clang_getCursorSemanticParent", "clang_getCursorSpelling", "clang_getCursorType",
  "clang_getCursorUSR", "clang_Cursor_getMangling", "clang_getCXXAccessSpecifier",
  "clang_getDeclObjCTypeEncoding", "clang_getDiagnostic", "clang_getDiagnosticCategory",
  "clang_getDiagnosticCategoryText", "clang_getDiagnosticFixIt", "clang_getDiagnosticInSet",
  "clang_getDiagnosticLocation", "clang_getDiagnosticNumFixIts", "clang_getDiagnosticNumRanges",
  "clang_getDiagnosticOption", "clang_getDiagnosticRange", "clang_getDiagnosticSeverity",
  "clang_getDiagnosticSpelling", "clang_getElementType", "clang_getEnumConstantDeclUnsignedValue",
  "clang_getEnumConstantDeclValue", "clang_getEnumDeclIntegerType", "clang_getFile",
  "clang_getFileName", "clang_getFileTime", "clang_getIBOutletCollectionType",
  "clang_getIncludedFile", "clang_getInclusions", "clang_getInstantiationLocation",
  "clang_getLocation", "clang_getLocationForOffset", "clang_getNullCursor",
  "clang_getNumArgTypes", "clang_getNumCompletionChunks", "clang_getNumDiagnostics",
  "clang_getNumDiagnosticsInSet", "clang_getNumElements", "clang_getNumOverloadedDecls",
  "clang_getOverloadedDecl", "clang_getPointeeType", "clang_getRange", "clang_getRangeEnd",
  "clang_getRangeStart", "clang_getResultType", "clang_getSpecializedCursorTemplate",
  "clang_getTemplateCursorKind", "clang_getTokenExtent", "clang_getTokenKind",
  "clang_getTokenLocation", "clang_getTokenSpelling", "clang_getTranslationUnitCursor",
  "clang_getTranslationUnitSpelling", "clang_getTUResourceUsageName", "clang_getTypeDeclaration",
  "clang_getTypedefDeclUnderlyingType", "clang_getTypeKindSpelling", "clang_getTypeSpelling",
  "clang_hashCursor", "clang_isAttribute", "clang_isConstQualifiedType",
  "clang_isCursorDefinition", "clang_isDeclaration", "clang_isExpression",
  "clang_isFileMultipleIncludeGuarded", "clang_isFunctionTypeVariadic", "clang_isInvalid",
  "clang_isPODType", "clang_isPreprocessing", "clang_isReference",
  "clang_isRestrictQualifiedType", "clang_isStatement", "clang_isTranslationUnit",
  "clang_isUnexposed", "clang_isVirtualBase", "clang_isVolatileQualifiedType",
  "clang_parseTranslationUnit", "clang_reparseTranslationUnit", "clang_saveTranslationUnit",
  "clang_tokenize", "clang_visitChildren", "clang_Cursor_getNumArguments",
  "clang_Cursor_getArgument", "clang_Cursor_getNumTemplateArguments",
  "clang_Cursor_getTemplateArgumentKind", "clang_Cursor_getTemplateArgumentType",
  "clang_Cursor_getTemplateArgumentValue", "clang_Cursor_getTemplateArgumentUnsignedValue",
  "clang_Cursor_isAnonymous", "clang_Cursor_isBitField", "clang_Cursor_getBriefCommentText",
  "clang_Cursor_getRawCommentText", "clang_Cursor_getOffsetOfField", "clang_Type_getAlignOf",
  "clang_Type_getClassType", "clang_Type_getOffsetOf", "clang_Type_getSizeOf",
  "clang_Type_getCXXRefQualifier", "clang_Type_getNamedType", "clang_Type_visitFields"]

/-- The settings, and whether the library is loaded. Path, file and check may hold any value; what
counts as false leaves the default. -/
structure Settings where
  path : Value := .null
  file : Value := .null
  check : Value := .bool false
  loaded : Bool := false
  deriving Inhabited

/-- Where the library is looked for: the name of the operating system, and the functions that the
library lacks. -/
structure Host where
  system : String := "Linux"
  lacking : List String := []

/-- Why the library cannot be set up. -/
inductive Failure where
  /-- A setting was changed after loading; the text names the setting. -/
  | tooLate (setting : String)
  /-- A required function is not in the library. -/
  | lacksFunction (name : String)
  /-- There is no such file. -/
  | noFile (name : String)
  /-- What was set for a name is no text. -/
  | notText
  /-- A name that no file can have. -/
  | unnamable
  deriving Repr, DecidableEq

/-- What is said of a failure. -/
def Failure.message? : Failure → Option String
  | tooLate setting => some <|
    setting ++ " must be set before before using any other functionalities in libclang."
  | lacksFunction name => some <|
    name ++ ". Please ensure that your python bindings are compatible with your libclang.so version."
  | noFile name => some <|
    name ++ ": cannot open shared object file: No such file or directory. To provide a path to "
      ++ "libclang use Config.set_library_path() or Config.set_library_file()."
  | notText | unnamable => none

namespace Settings

/-- Sets the directory of the library. -/
def setPath (s : Settings) (path : Value) : Except Failure Settings :=
  if s.loaded then .error (.tooLate "library path") else .ok { s with path }

/-- Sets the file of the library. -/
def setFile (s : Settings) (file : Value) : Except Failure Settings :=
  if s.loaded then .error (.tooLate "library file") else .ok { s with file }

/-- Sets whether a missing function is an error. -/
def setCheck (s : Settings) (check : Value) : Except Failure Settings :=
  if s.loaded then .error (.tooLate "compatibility_check") else .ok { s with check }

/-- The usual name of the library's file on an operating system. -/
def defaultFile (system : String) : String :=
  match system with
  | "Darwin" => "libclang.dylib"
  | "Windows" => "libclang.dll"
  | _ => "libclang.so"

/-- The file that is loaded: the one set, else the usual one, in the directory set. -/
def fileName (s : Settings) (host : Host) : Except Failure Value :=
  if s.file.truthy then .ok s.file
  else if s.path.truthy then match s.path with
    | .text path => .ok (.text (path ++ "/" ++ defaultFile host.system))
    | _ => .error .notText
  else .ok (.text (defaultFile host.system))

/-- Whether the library has a function of that name. -/
def has (host : Host) (name : String) : Bool :=
  name.startsWith "clang_" && !host.lacking.contains name

/-- Loads the library. With the check on, the first missing function stops the loading. -/
def load (s : Settings) (host : Host) : Except Failure Settings :=
  if s.loaded then .ok s
  else match if s.check.truthy then functions.find? (!has host ·) else none with
    | some name => .error (.lacksFunction name)
    | none => .ok { s with loaded := true }

/-- Opens the file of the library on a host that has only the standard C library. -/
def openFile (s : Settings) (host : Host) : Except Failure Unit := do
  match ← s.fileName host with
  | .text name =>
    if name = "libc.so.6" then .ok ()
    else if name.toList.contains '\x00' then .error .unnamable
    else .error (.noFile name)
  | _ => .error .notText

/-- Whether the library has a function by any name, loading it first. It stays loaded even if what is given
is no name. -/
def exists? (s : Settings) (host : Host) (name : Value) :
    Except Failure (Settings × Except Failure Bool) := do
  let s ← s.load host
  match name with
  | .text name => return (s, .ok (has host name))
  | _ => return (s, .error .notText)

end Settings

end GirDoc.Library
