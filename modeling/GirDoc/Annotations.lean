import GirDoc.Value.Order

/-!
# Annotations of parameters and return values

The annotations that a documentation comment puts on a parameter, explained for a reader: each known
one gives a note with a short name, a sentence of help and sometimes a value. Unknown and malformed
ones are reported and passed over; an argument of the wrong shape can stop the whole list.
-/

namespace GirDoc.Annotations

/-- An annotation explained for a reader. -/
structure Note where
  nick : String
  help : String
  value : Value := .null
  deriving Repr, BEq, Inhabited

/-- Why the arguments of an annotation could not be read. -/
inductive Failure where
  /-- The argument has no items at all. -/
  | notIndexable
  /-- The argument is empty. -/
  | noFirstItem
  /-- The argument is a dictionary, which has no first item. -/
  | noSuchKey
  deriving Repr, DecidableEq

/-- The first item of an argument. -/
def first : Value → Except Failure Value
  | .list (v :: _) => .ok v
  | .list [] => .error .noFirstItem
  | .text s => match s.toList with
    | c :: _ => .ok (.text (String.ofList [c]))
    | [] => .error .noFirstItem
  | .dict _ => .error .noSuchKey
  | _ => .error .notIndexable

/-- The number of items of an argument. -/
def count : Value → Except Failure Nat
  | .list items => .ok items.length
  | .text s => .ok s.length
  | .dict entries => .ok entries.length
  | _ => .error .notIndexable

/-- A note that holds whatever the argument is. -/
def fixed (nick help : String) : Except Failure (Option Note) :=
  .ok (some { nick, help })

/-- How ownership is passed, by the first item of the argument. -/
def transfer (argument : Value) : Except Failure (Option Note) := do
  match ← first argument with
  | .text "none" => fixed "transfer: none" "Don't free data after the code is done"
  | .text "full" => fixed "transfer: full" "Free data after the code is done"
  | .text "floating" =>
    fixed "transfer: floating" "Alias for transfer none, used for objects with floating refs"
  | .text "container" => fixed "transfer: container" "Free data container after the code is done"
  | _ => pure none

/-- How long a callback is valid. -/
def scope : Value → Except Failure (Option Note)
  | .list (.text "async" :: _) => fixed "scope async" "The callback is valid until first called"
  | .list (.text "call" :: _) =>
    fixed "scope call" "The callback is valid only during the call to the method"
  | .list (.text "notified" :: _) =>
    fixed "scope notified" "The callback is valid until the GDestroyNotify argument is called"
  | _ => .ok none

/-- The options of an array, each written `name=value`, one after the other. -/
def arrayOptions (entries : List (String × Value)) : String :=
  String.join (entries.map fun (name, v) => name ++ "=" ++ v.display)

/-- The note for an array. -/
def array (argument : Value) : Note :=
  { nick := "array"
    help := "Parameter points to an array of items"
    value := match argument with
      | .dict entries => .text (arrayOptions entries)
      | _ => .null }

/-- The note for the type of a container's elements. -/
def elementType (argument : Value) : Except Failure (Option Note) := do
  let value ← match argument with
    | .list _ => first argument
    | _ => pure .null
  pure (some
    { nick := "element-type"
      help := "Generic and defining element of containers and arrays"
      value })

/-- The note for the data of a callback, which may name the callback. -/
def closure : Value → Note
  | .list (v :: _) =>
    { nick := "closure"
      help := "This parameter is a closure for callbacks, many bindings can pass NULL to "
        ++ v.display }
  | _ =>
    { nick := "closure"
      help := "This parameter is a closure for callbacks, many bindings can pass NULL here" }

/-- The note of one annotation: none for an unknown name or an argument without meaning. -/
def explain (name : String) (argument : Value) : Except Failure (Option Note) :=
  match name with
  | "allow-none" => fixed "allow-none" "NULL is OK, both for passing and returning"
  | "transfer" => transfer argument
  | "inout" => fixed "inout" "Parameter for input and for returning results"
  | "out" => fixed "out" "Parameter for returning results"
  | "in" => fixed "in" "Parameter for input. Default is transfer none"
  | "array" => .ok (some (array argument))
  | "element-type" => elementType argument
  | "scope" => scope argument
  | "closure" => .ok (some (closure argument))
  | "nullable" => fixed "nullable" "NULL may be passed to the value"
  | "type" =>
    if argument.truthy then do
      let value ← first argument
      pure (some { nick := "type", help := "Override the parsed C type with given type", value })
    else .ok none
  | "optional" => fixed "optional" "NULL may be passed instead of a pointer to a location"
  | "default" => do
    let v ← first argument
    fixed ("default " ++ v.display)
      "Default parameter value (for in case the shadows-to function has less parameters)"
  | _ => .ok none

/-- Whether an annotation is the pair of words `not nullable`. -/
def isNotNullable (name : String) (argument : Value) : Except Failure Bool := do
  if name ≠ "not" then return false
  if (← count argument) ≠ 1 then return false
  return (← first argument).same (.text "nullable")

/-- What was found in a list of annotations: the notes, the lines that report what was passed over,
and the failure that stopped the reading, if one did. -/
structure Report where
  notes : List Note
  printed : List String
  failure : Option Failure
  deriving Repr

/-- A report with one more note in front. -/
def Report.withNote (note : Note) (r : Report) : Report := { r with notes := note :: r.notes }

/-- A report with one more printed line in front. -/
def Report.withLine (line : String) (r : Report) : Report := { r with printed := line :: r.printed }

/-- A reading stopped by a failure. -/
def Report.stopped (e : Failure) : Report := ⟨[], [], some e⟩

/-- The line that reports an annotation without a note. -/
def unknownLine (name : String) (argument : Value) : String :=
  "This parameter annotation is unknown :[" ++ name ++ "] " ++ argument.display

/-- Explains annotations in order, up to the first failure. -/
def explainAll : List (String × Value) → Report
  | [] => ⟨[], [], none⟩
  | (name, argument) :: rest =>
    if name = "skip" then explainAll rest
    else match explain name argument with
      | .error e => .stopped e
      | .ok (some note) => (explainAll rest).withNote note
      | .ok none =>
        match isNotNullable name argument with
        | .error e => .stopped e
        | .ok true =>
          (explainAll rest).withNote
            { nick := "not nullable"
              help := "NULL is *not* OK, either for passing or returning" }
        | .ok false => (explainAll rest).withLine (unknownLine name argument)

end GirDoc.Annotations
