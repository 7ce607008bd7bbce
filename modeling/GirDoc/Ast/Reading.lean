import GirDoc.Ast.Model
import GirDoc.Text.Split
import GirDoc.Value.Access

/-!
# Syntax trees as data

A source unit read from a value: nodes and types are lists of dictionaries that refer to each other
by their places in the list.
-/

namespace GirDoc.Ast

/-- A reference to a node by its place. -/
def CursorRef.ofValue : Value → CursorRef
  | .int n => if 0 ≤ n then .node n.toNat else .null
  | _ => .null

/-- A reference to a type by its place. -/
def TypeRef.ofValue : Value → TypeRef
  | .int n => if 0 ≤ n then .type n.toNat else .invalid
  | _ => .invalid

/-- A location: file, line, column and offset, of which the last may be missing. -/
def Location.ofValue (v : Value) : Location :=
  { file := (v.nth 0).text?, line := (v.nth 1).toWord, column := (v.nth 2).toWord
    offset := (v.nth 3).toWord }

/-- A range between two locations. -/
def Range.ofValue (v : Value) : Range :=
  { start := .ofValue (v.nth 0), stop := .ofValue (v.nth 1) }

/-- A token: kind, spelling, line, column and perhaps its node. -/
def TokenData.ofValue (v : Value) : TokenData :=
  { kind := (v.nth 0).intOr 0, spelling := (v.nth 1).textOr "", line := (v.nth 2).toWord
    column := (v.nth 3).toWord, cursor := .ofValue (v.nth 4) }

/-- An argument of a template. -/
def TemplateArgument.ofValue (v : Value) : TemplateArgument :=
  { kind := (v.field "kind").intOr 0, type := .ofValue (v.field "type")
    value := (v.field "value").intOr 0 }

/-- A node. -/
def CursorData.ofValue (v : Value) : CursorData :=
  let cursor (key : String) := CursorRef.ofValue (v.field key)
  let number (key : String) (default : Int) := (v.field key).intOr default
  let text (key : String) := (v.field key).textOr ""
  let line := (v.field "line").toWord
  let extent := (v.field "extent").items
  { kind := number "kind" 0, spelling := text "spelling"
    display := (v.field "display").textOr (text "spelling")
    file := (v.field "file").text?, line, column := (v.field "col").toWord
    firstLine := (extent[0]?).elim line Value.toWord, lastLine := (extent[1]?).elim line Value.toWord
    children := (v.field "children").items.map .ofValue
    type := .ofValue (v.field "type"), underlying := .ofValue (v.field "underlying")
    enumType := .ofValue (v.field "enum_type")
    definition := cursor "def", parent := cursor "parent", lexicalParent := cursor "lexical"
    canonical := cursor "canonical", referenced := cursor "referenced"
    arguments := match v.field "args" with
      | .list arguments => some (arguments.map .ofValue)
      | _ => none
    value := number "value" 0, tokens := (v.field "tokens").items.map .ofValue
    included := (v.field "included").text?, usr := text "usr", mangled := text "mangled"
    objcEncoding := text "objc", briefComment := (v.field "brief").text?
    rawComment := (v.field "raw").text?
    storage := number "storage" 0, access := number "access" 0, hash := number "hash" 0
    bitWidth := number "width" (-1), fieldOffset := number "offset" (-1)
    templateArguments := (v.field "template_args").items.map .ofValue
    flags := (v.field "flags").texts }

/-- A type. -/
def TypeData.ofValue (v : Value) : TypeData :=
  let type (key : String) := TypeRef.ofValue (v.field key)
  let number (key : String) (default : Int) := (v.field key).intOr default
  let holds (key : String) := (v.field key).truthy
  { kind := number "kind" 0, spelling := (v.field "spelling").textOr ""
    isConst := holds "const", isRestrict := holds "restrict", isVolatile := holds "volatile"
    pointee := type "pointee", result := type "result"
    declaration := match v.entries.lookup "decl" with
      | none => .noDecl
      | some d => .ofValue d
    canonical := type "canonical", element := type "element", arrayElement := type "array_element"
    classType := type "class", named := type "named"
    count := number "count" (-1), arraySize := number "array_size" (-1)
    align := number "align" (-1), size := number "size" (-1), refQualifier := number "ref" 0
    variadic := holds "variadic", pod := holds "pod"
    fields := (v.field "fields").items.map .ofValue
    offsets := (v.field "offsets").entries.map fun (name, n) => (name, n.intOr 0) }

/-- A diagnostic with its notes, down to a depth. -/
def Diagnostic.read : Nat → Value → Diagnostic
  | 0, _ => {}
  | _ + 1, .text format => { format }
  | depth + 1, v =>
    { format := (v.field "format").textOr "", severity := (v.field "severity").intOr 0
      spelling := (v.field "spelling").textOr "", location := .ofValue (v.field "loc")
      ranges := (v.field "ranges").items.map .ofValue
      fixits := (v.field "fixits").items.map fun f => (.ofValue (f.nth 0), (f.nth 1).textOr "")
      children := (v.field "children").items.map (Diagnostic.read depth)
      category := (v.field "category").toNat
      categoryText := (v.field "category_text").textOr ""
      option := (v.field "option").textOr "", disable := (v.field "disable").textOr "" }

/-- A completion with those in its chunks, down to a depth. -/
def Completion.read : Nat → Value → Completion
  | 0, _ => .mk 0 [] 0 0 none
  | depth + 1, v =>
    .mk ((v.field "kind").intOr 0)
      ((v.field "chunks").items.map fun c =>
        ((c.nth 0).intOr 0, (c.nth 1).text?, match c.nth 2 with
          | .dict entries => some (Completion.read depth (.dict entries))
          | _ => none))
      ((v.field "priority").intOr 0) ((v.field "availability").intOr 0) (v.field "brief").text?

/-- A compilation database. -/
def CompileDatabase.ofValue (v : Value) : CompileDatabase :=
  match v.field "error" with
  | .int code => .failed code
  | _ => .commands ((v.field "commands").items.map fun c =>
      { directory := (c.field "directory").textOr "", file := (c.field "file").textOr ""
        arguments := (c.field "args").texts })

/-- A line and column, with a colon between. -/
def placeOf (s : String) : Nat × Nat :=
  match Text.splitAll ':' s with
  | [line, column] => (line.toNat?.getD 0, column.toNat?.getD 0)
  | _ => (0, 0)

/-- A source unit. Its main file, its nodes and its types have to be given, be they none. A unit of which no file is
gone through need not say which nodes the tokens of files belong to. -/
def SourceUnit.ofValue? (v : Value) : Option SourceUnit := do
  let main ← v.entries.lookup "main"
  let cursors ← v.entries.lookup "cursors"
  let types ← v.entries.lookup "types"
  return {
    main := main.textOr ""
    cursors := (cursors.items.map .ofValue).toArray
    types := (types.items.map .ofValue).toArray
    annotated := (v.field "annotated").entries.map fun (file, list) => (file, list.items.map .ofValue)
    includes := (v.field "includes").items.map fun i => ((i.nth 0).textOr "", (i.nth 1).toNat)
    guarded := (v.field "guarded").texts
    diagnostics := (v.field "diagnostics").items.map fun d => .read d.depth d
    root := .ofValue (v.field "root")
    located := (v.field "at").entries.map fun (place, c) => (placeOf place, .ofValue c)
    kindClasses := (v.field "kinds").entries.map fun (name, ids) => (name, ids.items.map (·.intOr 0))
    saveCode := (v.field "save").intOr 0
    completions := match v.field "completions" with
      | .list list => some (list.map fun c => .read c.depth c)
      | _ => none
    databases := (v.field "databases").entries.map fun (dir, d) => (dir, .ofValue d) }

end GirDoc.Ast
