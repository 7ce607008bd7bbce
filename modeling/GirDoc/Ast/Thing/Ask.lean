import GirDoc.Ast.Thing.Calls
import GirDoc.Ast.Thing.Node
import GirDoc.Ast.Thing.Remark
import GirDoc.Ast.Thing.Unit
import GirDoc.Library
import GirDoc.Value.Order

/-!
# Asking

A question to any thing, and what can be done with every thing: showing it, comparing it, and going
through what is in it.
-/

namespace GirDoc.Ast

open Attempt (need)

/-! ## Groups -/

/-- The kind of a family that a value stands for. -/
def Family.kindFor (family : Family) (v : Value) : Except Fault Kind :=
  match v.number? with
  | some n => family.kind n
  | none => .error .wrongType

/-- The kind of a family that the argument of a question stands for. -/
def kindOf (family : Family) : Arguments → Except Fault Thing
  | [some (.value v)] => do return .kind (← family.kindFor v)
  | _ => .error .wrongType

/-- A question to a family of kinds. -/
def Family.part (family : Family) (p : Part) (args : Arguments) : Except Fault Thing :=
  match p, family with
  | .tokenKindOf, .token => kindOf family args
  | .kindOf, .token => .error .noSuchPart
  | .kindOf, _ => kindOf family args
  | .allKinds, .cursor => .ok (.list (family.kinds.map .kind))
  | .other name, _ =>
    match family.kinds.find? fun k => k.name = name with
    | some k => .ok (.kind k)
    | none => .error .noSuchPart
  | _, _ => .error .noSuchPart

/-- Makes an index, unless one is given. -/
def needIndex : Option Thing → Inspect Unit
  | none | some (.value .null) => Inspection.call (Calls.one "createIndex")
  | some _ => return

/-- Whether the things of a group have a part that is asked for without arguments. -/
def Group.offers (g : Group) (p : Part) : Bool :=
  match g with
  | .units => [.cursor, .spelling, .diagnostics].contains p
  | .nodes => [.kind, .spelling, .display, .mangled, .location, .extent, .storage, .access, .type,
      .canonical, .resultType, .underlying, .integerType, .enumValue, .encoding, .hash, .parent,
      .lexicalParent, .unit, .referenced, .brief, .raw].contains p
  | .types => [.kind, .elementType, .elementCount, .unit, .spelling].contains p
  | .tokens => [.spelling, .kind, .location, .extent, .cursor].contains p
  | .locations => [.file, .line, .column, .offset].contains p
  | .ranges => [.start, .stop].contains p
  | .files => [.name, .time].contains p
  | .diagnostics => [.severity, .location, .spelling, .ranges, .fixIts, .notes, .categoryNumber,
      .categoryName, .option, .disableOption].contains p
  | .completions => [.priority, .availability, .remark].contains p
  | _ => false

/-- What a group says of a part of its things, and of the numbers that have a name in it. -/
def Group.ownPart (g : Group) (p : Part) : Except Fault Thing :=
  if g.offers p then .ok (.object "property") else Thing.number g p

/-- A question to a group of things. -/
def Group.part (g : Group) (p : Part) (args : Arguments) : Inspect Thing := do
  match g, p with
  | .indexes, .create =>
    Inspection.call (Calls.one "createIndex")
    return .index
  | .units, .parse =>
    needIndex (args[4]?).join
    parsed args
  | .units, .load =>
    needIndex (args[1]?).join
    loaded args
  | .nodes, .cursorAt =>
    Inspection.call (Calls.one "getCursor")
    match args with
    | [some (.unit _), some (.location l)] => return .cursor ((← get).unit.cursorAt l)
    | _ => throw .refused
  | .locations, .placeAt =>
    Inspection.call (Calls.one "getLocation")
    match args with
    | [_, some file, some line, some column] =>
      return .location (Inspection.atPlace (← ofExcept file.givenFile) (← ofExcept line.wholeNumber)
        (← ofExcept column.wholeNumber))
    | _ => throw .wrongType
  | .locations, .offsetAt =>
    Inspection.call (Calls.one "getLocationForOffset")
    match args with
    | [_, some file, some offset] =>
      return .location (Inspection.atOffset (← ofExcept file.givenFile) (← ofExcept offset.wholeNumber))
    | _ => throw .wrongType
  | .ranges, .rangeOf =>
    Inspection.call (Calls.one "getRange")
    match args with
    | [some (.location start), some (.location stop)] => return .range { start, stop } none
    | _ => throw .refused
  | .files, .fileNamed =>
    Inspection.call (Calls.one "getFile")
    match args with
    | [_, some name] => return .file (← Inspection.file (← ofExcept name.givenText))
    | _ => throw .wrongType
  | .databases, .openDirectory =>
    Inspection.call (Calls.one "CompilationDatabase_fromDirectory")
    match args with
    | [some directory] => return .database (← Inspection.database (← ofExcept directory.givenText))
    | _ => throw .wrongType
  | .settings, .library | .completions, .chunkCount | .chunks, .spelling | .chunks, .kind
  | .chunks, .string => return .object "CachedProperty"
  | .kinds family, p => ofExcept (family.part p args)
  | g, p => ofExcept (g.ownPart p)

/-! ## Things -/

namespace Thing

/-- What can be said of a thing once functions were called for it. A question that is wrong in itself is
answered without them. -/
def answered (calls : List String) : Except Fault Thing → Inspect Thing
  | .error .broken => throw .broken
  | .error .wrongType => throw .wrongType
  | answer => do
    Inspection.call calls
    ofExcept answer

/-- A part of a node. Nodes below it are found only if they can be told from the null node. -/
def askCursor (c : Cursor) (p : Part) (args : Arguments) : Inspect Thing := do
  let u := (← get).unit
  let finds ← Inspection.hasAll Calls.nullTest
  Inspection.call (Cursor.firstCalls p)
  match p, finds with
  | .children, false => answered (c.calls u p) (.ok (stream []))
  | .preorder, false => answered (c.calls u p) (.ok (stream [cursor c]))
  | p, _ => answered (c.calls u p) (c.part u p args)

/-- A part of a type. Its fields are found only if they can be told from the null node. -/
def askType (r : TypeRef) (p : Part) (args : Arguments) : Inspect Thing := do
  let finds ← Inspection.hasAll Calls.nullTest
  match p, finds with
  | .fields, false => answered (TypeRef.calls p) (.ok (stream []))
  | p, _ => answered (TypeRef.calls p) (r.part (← get).unit p args)

/-- A part of a thing. -/
def ask (t : Thing) (p : Part) (args : Arguments) : Inspect Thing := do
  let u := (← get).unit
  match t with
  | group g => g.part p args
  | settings =>
    match p, args with
    | .library, _ => return functions
    | .hasFunction, [some (value (.text name))] =>
      return bool (Library.Settings.has { lacking := (← get).missing } name)
    | .hasFunction, [some _] => throw .wrongType
    | _, _ => throw .noSuchPart
  | functions =>
    match p, args with
    | .includedFile, args =>
      Inspection.call (Calls.one "getIncludedFile")
      match args with
      | [some (cursor c)] => return file (← Inspection.includedFile c)
      | _ => throw .refused
    | .nullCursor, _ =>
      Inspection.call (Calls.one "getNullCursor")
      return cursor { ref := .null, tied := false }
    | _, _ => throw .noSuchPart
  | index =>
    match p with
    | .parse => parsed args
    | .load => loaded args
    | _ => throw .noSuchPart
  | unit _ => u.part p args
  | cursor c => askCursor c p args
  | type r => askType r p args
  | kind k => answered (t.calls u p) (k.part u p)
  | location l =>
    let answer ← answered (t.calls u p) (l.part p)
    let _ ← Inspection.lookUp l
    return answer
  | range r _ => answered (t.calls u p) (r.part p)
  | file name =>
    Inspection.call (t.calls u p)
    match p with
    | .name => return text name
    | .time => return int (← Inspection.changeTime name)
    | _ => throw .noSuchPart
  | token k => answered (t.calls u p) (k.part p)
  | inclusion i => ofExcept (i.part p)
  | diagnostic d =>
    Inspection.call (t.calls u p)
    d.part p args
  | fixIt f => ofExcept (f.part p)
  | completions all =>
    match p with
    | .results => return results all
    | .diagnostics => return diagnostics .ofCompletion u.diagnostics
    | _ => throw .noSuchPart
  | results all => if p = .resultCount then return int all.length else throw .noSuchPart
  | result c => ofExcept (c.resultPart p)
  | completion c =>
    Inspection.call (t.calls u p)
    c.part p
  | chunk c => answered (t.calls u p) (c.part p)
  | named name => if p = .name then return text name else throw .noSuchPart
  | held s => if p = .spelling then return text? s else throw .noSuchPart
  | database all =>
    Inspection.call (t.calls u p)
    match p, args with
    | .allCommands, _ => return commands all
    | .commandsFor, [some name] =>
      return (Inspection.commandsFor? (← ofExcept name.givenText) all).elim nothing commands
    | _, _ => throw .noSuchPart
  | command c => answered (t.calls u p) (c.part p)
  | _ => throw .noSuchPart

/-! ## What is in a thing -/

/-- What is in a thing that can be counted, each item found on its own. -/
def counted? : Thing → Option (List (Except Fault Thing))
  | diagnostics _ all => some (all.map fun d => .ok (diagnostic d))
  | ranges d => some (d.ranges.map fun r => .ok (range r none))
  | fixIts d => some ((List.range d.fixits.length).map fun i => (d.fixIt i).map fixIt)
  | results all => some (all.map fun c => .ok (result c))
  | completion c => some (c.chunks.map fun k => .ok (chunk k))
  | commands all => some (all.map fun c => .ok (command c))
  | t => t.sized?.map fun items => items.map .ok

/-- How much is in a thing. -/
def count (t : Thing) : Inspect Nat := do
  Inspection.call t.countCalls
  match t.counted? with
  | some items => return items.length
  | none => throw .wrongType

/-- The item at an index. In a list a negative index counts from the end. -/
def itemAt (t : Thing) (i : Int) : Except Fault Thing :=
  match t.counted? with
  | none => .error .wrongType
  | some items =>
    let i := if t.sized?.isSome && i < 0 then i + items.length else i
    if i < 0 then .error .outOfRange
    else match items[i.toNat]? with
      | some found => found
      | none => .error .outOfRange

/-- The item at an index. -/
def item (t : Thing) (i : Int) : Inspect Thing := do
  Inspection.call t.itemCalls
  ofExcept (t.itemAt i)

/-- What is in a thing, up to the first item that cannot be found. -/
def contained (t : Thing) : Inspect (List Thing) := do
  match t with
  | stream items => return items
  | t =>
    Inspection.call (t.countCalls ++ t.itemCalls)
    match t.counted? with
    | some items => return (items.takeWhile Except.isOk).filterMap Except.toOption
    | none => throw .wrongType

/-! ## Comparing -/

mutual

/-- Whether two things are equal. Nodes, locations and ranges can only be compared with their like. -/
def equals : Thing → Thing → Except Fault Bool
  | cursor a, cursor b => .ok (a.ref = b.ref)
  | cursor _, _ => .error .refused
  | location a, location b => .ok (a = b)
  | location _, _ => .error .refused
  | range a _, range b _ => .ok (a = b)
  | range _ _, _ => .error .refused
  | type a, type b => .ok (a = b)
  | type _, _ => .ok false
  | _, type _ => .ok false
  | _, cursor _ => .error .refused
  | _, location _ => .error .refused
  | _, range _ _ => .error .refused
  | list as, list bs => equalItems as bs
  | value a, value b => .ok (a.same b)
  | kind a, kind b => .ok (a = b)
  | unit a, unit b => .ok (a && b)
  | group a, group b => .ok (a = b)
  | settings, settings => .ok true
  | _, _ => .ok false

/-- Whether two lists have equal items. -/
def equalItems : List Thing → List Thing → Except Fault Bool
  | [], [] => .ok true
  | a :: as, b :: bs => do if ← equals a b then equalItems as bs else return false
  | _, _ => .ok false

end

/-- Compares two things. -/
def compare (t other : Thing) : Inspect Bool := do
  Inspection.call (t.equalCalls other)
  ofExcept (t.equals other)

/-- Whether a thing is in another: a location in a range, or an item in a list. -/
def within (t other : Thing) : Inspect Bool := do
  match other, t with
  | range r _, location l =>
    Inspection.call (Calls.range r ++ Calls.location l)
    let _ ← Inspection.lookUp l
    need .noSuchPart (r.contains? l)
  | range _ _, _ => return false
  | other, t =>
    (← need .wrongType other.sized?).anyM fun item => t.compare item

/-! ## Showing -/

/-- Looks up both ends of a range. -/
def lookUpEnds (r : Range) : Inspect Range := do
  return { start := ← Inspection.lookUp r.start, stop := ← Inspection.lookUp r.stop }

/-- How a thing that holds no others is shown. -/
def shownAlone (t : Thing) : Inspect String := do
  Inspection.call t.shownCalls
  match t with
  | value v => return v.inner
  | location l => return (← Inspection.lookUp l).shown
  | range r _ => return (← lookUpEnds r).shown
  | file name => return "<File: " ++ name ++ ">"
  | kind k => return k.shown
  | diagnostic d =>
    let _ ← Inspection.lookUp d.location
    return d.shown
  | fixIt f =>
    let _ ← lookUpEnds f.range
    return f.shown
  | result c => Inspection.shownCompletion c
  | completion c => Inspection.shownCompletion c
  | chunk c => ofExcept c.shown
  | named name => return shownName name
  | _ => return ""

mutual

/-- How a thing is shown inside other things. -/
def shown : Thing → Inspect String
  | list items => do return "[" ++ ", ".intercalate (← shownItems items) ++ "]"
  | t => shownAlone t

/-- How the items of a list are shown. -/
def shownItems : List Thing → Inspect (List String)
  | [] => return []
  | t :: rest => do return (← shown t) :: (← shownItems rest)

end

/-- How a thing is shown on its own. -/
def display : Thing → Inspect String
  | value v => return v.display
  | file name => do
    Inspection.call Calls.fileName
    return name
  | diagnostic d => Inspection.format d none
  | named name => return name
  | t => t.shown

end Thing

end GirDoc.Ast
