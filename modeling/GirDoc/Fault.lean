import GirDoc.Ast.Kind
import GirDoc.FileTree
import GirDoc.Options
import GirDoc.SourceEncoding

/-!
# Faults

The ways in which a step of documenting a library can fail, with the words used for them.
-/

namespace GirDoc

/-- Why a step has no result. -/
inductive Fault where
  /-- A number that stands for no kind of its family. -/
  | unknownKind (family : Ast.Family) (id : Int)
  /-- An index outside a list or table. -/
  | outOfRange
  /-- A part of something that has no such part, such as nothing at all. -/
  | noSuchPart
  /-- A value of a kind that cannot be used there. -/
  | wrongType
  /-- An argument that the parser library does not take. -/
  | refused
  /-- A value of the wrong number of parts. -/
  | wrongCount
  /-- A key that is not in a table, or an attribute that an element lacks. -/
  | missingKey
  /-- A condition that callers promise does not hold. -/
  | broken
  /-- A chain of declarations or classes that does not come to an end. -/
  | tooDeep
  /-- There is no such file. -/
  | noFile
  /-- A directory stands where a file is needed. -/
  | isDirectory
  /-- A file stands where a directory is needed. -/
  | notDirectory
  /-- A name that no file can have. -/
  | unnamable
  /-- A source in an encoding that is none of text. -/
  | noEncoding
  /-- A source without the form that its encoding needs. -/
  | badForm
  /-- A search that is not written as one. -/
  | unsearchable
  /-- A name in a search that is none. -/
  | invalidName
  /-- The bytes of a file spell no text. -/
  | notText
  /-- A markup file that cannot be read. -/
  | unreadable
  /-- A markup file that is not well formed. -/
  | malformed
  /-- An extracted comment whose bytes spell no text. -/
  | brokenComment
  /-- The unit could not be parsed. -/
  | notParsed
  /-- The unit could not be read from a file. -/
  | notLoaded (file : String)
  /-- The unit could not be saved. -/
  | notSaved (code : Int)
  /-- A result of saving that has no meaning. -/
  | undefinedSaveCode (code : Int)
  /-- The database of compile commands could not be loaded. -/
  | noDatabase (code : Int)
  /-- A result of loading a database that has no meaning. -/
  | undefinedDatabaseCode (code : Int)
  /-- Options for formatting that do not exist. -/
  | invalidFormat
  /-- Contents of an unsaved file that are no text. -/
  | contentsNotText
  /-- Fewer than two ends for a range. -/
  | tooFewEnds
  /-- A type without elements was asked for their number. -/
  | noElements
  /-- A type without elements was asked for their type. -/
  | noElementType
  /-- The parser library cannot be used, for the reason given. -/
  | library (message : String)
  deriving Repr, DecidableEq, Inhabited

namespace Fault

/-- An undefined result code, as it is reported. -/
def undefinedCode (what : String) (code : Int) : String :=
  "Encountered undefined " ++ what ++ " error constant: " ++ toString code
    ++ ". Please file a bug to have this value supported."

/-- A report with its number. -/
def numbered (code : Int) (message : String) : String :=
  "Error " ++ toString code ++ ": " ++ message

/-- What is said of a fault; none of those that speak for themselves. -/
def message? : Fault → Option String
  | unknownKind family id => some (family.unknownMessage id)
  | notParsed => some "Error parsing translation unit."
  | notLoaded file => if file.isEmpty then none else some file
  | notSaved code => some (numbered code "Error saving TranslationUnit.")
  | undefinedSaveCode code => some (undefinedCode "TranslationUnit save" code)
  | noDatabase code => some (numbered code "CompilationDatabase loading failed")
  | undefinedDatabaseCode code => some (undefinedCode "CompilationDatabase" code)
  | invalidFormat => some "Invalid format options"
  | contentsNotText => some "Unexpected unsaved file contents."
  | tooFewEnds => some "Must pass object with at least 2 elements"
  | noElements => some "Type does not have elements."
  | noElementType => some "Element type not available on this type."
  | library message => some message
  | _ => none

/-- The fault that a failed save is reported by. -/
def ofSaveCode (code : Int) : Fault :=
  if code < 1 || 3 < code then undefinedSaveCode code else notSaved code

/-- The fault that a failed load of a database is reported by. -/
def ofDatabaseCode (code : Int) : Fault :=
  if 1 < code then undefinedDatabaseCode code else noDatabase code

/-- The fault of a path that does not lead to what is wanted. -/
def ofPath : PathFault → Fault
  | .missing => noFile
  | .notDirectory => notDirectory
  | .isDirectory => isDirectory
  | .tooLong => unreadable
  | .unnamable => unnamable

/-- The fault of a file that gives no text. -/
def ofRead : ReadFailure → Fault
  | .noFile e => ofPath e
  | .notText => notText

/-- The fault of a source without lines. -/
def ofEncoding : SourceEncoding.Failure → Fault
  | .notText => notText
  | .badForm => badForm
  | .noEncoding => noEncoding

/-- The fault of a configuration that cannot be read. -/
def ofOptions : Options.Failure → Fault
  | .wrongType => wrongType
  | .noPackage => missingKey
  | .notText => noSuchPart

end Fault

/-- The kind of a family with a number. -/
def Ast.Family.kind (f : Ast.Family) (id : Int) : Except Fault Ast.Kind :=
  match f.ofId id with
  | .ok k => .ok k
  | .error .unknown => .error (.unknownKind f id)
  | .error .beforeTable => .error .outOfRange

end GirDoc
