import GirDoc.Gir.Filter

/-!
# Symbols of macros

A macro is documented from the text of its definition. It takes arguments if an opening parenthesis
comes before any blank; its comment then tells what they are.
-/

namespace GirDoc.C

open Session

/-- What the text of a definition defines. -/
inductive MacroHead where
  | function (name : String)
  | constant (name : String)
  deriving Repr, DecidableEq

/-- The head of a definition; `none` if no blank follows its first word. -/
def macroHead? (text : String) : Option MacroHead :=
  (Text.cut ' ' (Text.replaceChar '\t' ' ' text)).map fun (_, body) =>
    match Text.cut '(' body with
    | some (name, _) =>
      if name.toList.contains ' ' then .constant (Text.trim (Text.before ' ' body))
      else .function (Text.trim name)
    | none => .constant (Text.trim (Text.before ' ' body))

/-- The symbol of a macro with arguments: those that its comment documents. -/
def functionMacro (owner : Owner) (name file text : String) (line : Int) : Doc SymbolSlot := do
  let comment ← comment? name
  let result ← match comment with
    | some c =>
      if "returns" ∈ c.tags then do pure (some (← addItem .returnItem none)) else pure none
    | none => pure none
  let parameters ← (comment.elim [] Comment.params).mapM fun (param, _) =>
    addSymbol { kind := .parameter, argName := some param }
  request owner .functionMacro [.returnValue [result], .parameters (parameters.map some),
    .definitionText text, .displayName (some name), .filename (some file), .line line]

/-- The symbol of a macro. -/
def macroSymbol (owner : Owner) (text file : String) (line : Int) : Doc SymbolSlot := do
  match ← Attempt.need .outOfRange (macroHead? text) with
  | .function name => functionMacro owner name file text line
  | .constant name =>
    request owner .constant [.definitionText text, .displayName (some name),
      .filename (some file), .line line]

end GirDoc.C
