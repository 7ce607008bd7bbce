import GirDoc.Record

/-!
# Flags of signals and properties

Short marks that say when a signal runs and how a property can be used.
-/

namespace GirDoc.Gir

/-- A flag of a signal or a property. -/
inductive Flag where
  | runLast
  | runFirst
  | runCleanup
  | noHooks
  | writable
  | readable
  | construct
  | constructOnly
  deriving Repr, DecidableEq

namespace Flag

/-- What a flag is called. -/
def nick : Flag → String
  | runLast => "Run Last"
  | runFirst => "Run First"
  | runCleanup => "Run Cleanup"
  | noHooks => "No Hooks"
  | writable => "Write"
  | readable => "Read"
  | construct => "Construct"
  | constructOnly => "Construct Only"

/-- The anchor of the manual that explains a flag. -/
def anchor? : Flag → Option String
  | runLast => some "G-SIGNAL-RUN-LAST:CAPS"
  | runFirst => some "G-SIGNAL-RUN-FIRST:CAPS"
  | runCleanup => some "G-SIGNAL-RUN-CLEANUP:CAPS"
  | noHooks => some "G-SIGNAL-NO-HOOKS:CAPS"
  | _ => none

/-- Where a flag is explained. -/
def page? (f : Flag) : Option String :=
  f.anchor?.map ("https://developer.gnome.org/gobject/unstable/gobject-Signals.html#" ++ ·)

/-- A flag as a value. -/
def record (f : Flag) : Value :=
  .dict [("nick", .text f.nick), ("flag_link", Record.optional f.page?)]

end Flag

/-- A template filled with values. -/
def template (name : String) (context : List (String × Value)) : Value :=
  .dict [("template", .text name), ("context", .dict context)]

/-- Flags as they are shown. -/
def formatFlags (flags : List Flag) : Value :=
  template "gi_flags.html" [("flags", .list (flags.map Flag.record))]

/-- The flags of the element of a signal. -/
def signalFlags (n : Xml.Node) : List Flag :=
  (match n.attribute? "when" with
    | some "first" => [.runFirst]
    | some "last" => [.runLast]
    | some "cleanup" => [.runCleanup]
    | _ => [])
    ++ (if n.attribute? "no-hooks" = some "1" then [.noHooks] else [])

/-- The flags of the element of a property. -/
def propertyFlags (n : Xml.Node) : List Flag :=
  .readable :: (if n.attribute? "writable" = some "1" then [.writable] else [])
    ++ (if n.attribute? "construct-only" = some "1" then [.constructOnly]
      else if n.attribute? "construct" = some "1" then [.construct] else [])

end GirDoc.Gir
