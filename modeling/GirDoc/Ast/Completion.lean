import GirDoc.Ast.Model
import GirDoc.Fault

/-!
# Completions

What can be written at a place of the source: a list of chunks of text, each of a kind, with a
priority, an availability and perhaps a remark. A chunk may hold a completion of its own.
-/

namespace GirDoc.Ast

/-- The names of the kinds of chunks. -/
def chunkKinds : List String := [
  "Optional", "TypedText", "Text", "Placeholder", "Informative", "CurrentParameter", "LeftParen",
  "RightParen", "LeftBracket", "RightBracket", "LeftBrace", "RightBrace", "LeftAngle", "RightAngle",
  "Comma", "ResultType", "Colon", "SemiColon", "Equal", "HorizontalSpace", "VerticalSpace"]

/-- The names of the degrees of availability. -/
def availabilities : List String := ["Available", "Deprecated", "NotAvailable", "NotAccessible"]

/-- The name with a number. -/
def nameAt (names : List String) (n : Int) : Except Fault String :=
  if n < 0 then .error .missingKey
  else match names[n.toNat]? with
    | some name => .ok name
    | none => .error .missingKey

/-- A named number, as it is shown. -/
def shownName (name : String) : String := "<ChunkKind: " ++ name ++ ">"

/-- The text that all chunks of a kind have. -/
def fixedText? (kind : Int) : Option String :=
  [(6, "("), (7, ")"), (8, "["), (9, "]"), (10, "\x7b"), (11, "\x7d"), (12, "<"), (13, ">"),
    (14, ", "), (16, ":"), (17, ";"), (18, "="), (19, " ")].lookup kind

/-- A text, or the word for nothing. -/
def textOrNone : Option String → String
  | some s => s
  | none => "None"

/-- A chunk of a completion. -/
structure Chunk where
  kind : Int
  text : Option String
  nested : Option Completion
  deriving Inhabited

namespace Chunk

/-- The text of a chunk. -/
def spelling (c : Chunk) : Option String :=
  match fixedText? c.kind with
  | some s => some s
  | none => c.text

/-- The name of the kind of a chunk. -/
def kindName (c : Chunk) : Except Fault String := nameAt chunkKinds c.kind

/-- How a chunk is shown. -/
def shown (c : Chunk) : Except Fault String := do
  return "\x7b'" ++ textOrNone c.spelling ++ "', " ++ (← c.kindName) ++ "\x7d"

end Chunk

namespace Completion

/-- The number of the kind of node that is completed to. -/
def kind : Completion → Int
  | mk kind .. => kind

/-- The chunks of a completion. -/
def chunks : Completion → List Chunk
  | mk _ chunks .. => chunks.map fun (kind, text, nested) => { kind, text, nested }

/-- The priority of a completion. -/
def priority : Completion → Int
  | mk _ _ priority .. => priority

/-- The name of the availability of a completion. -/
def availability : Completion → Except Fault String
  | mk _ _ _ availability _ => nameAt availabilities availability

/-- The remark on a completion. -/
def brief : Completion → Option String
  | mk _ _ _ _ brief => brief

/-- How a completion is shown, with the remark given for it. -/
def shown (c : Completion) (remark : Option String) : Except Fault String := do
  let chunks ← c.chunks.mapM Chunk.shown
  return " | ".intercalate chunks ++ " || Priority: " ++ toString c.priority
    ++ " || Availability: " ++ (← c.availability) ++ " || Brief comment: " ++ textOrNone remark

end Completion

end GirDoc.Ast
