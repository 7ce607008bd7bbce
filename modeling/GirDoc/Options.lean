import GirDoc.Text.Blank
import GirDoc.Text.Split
import GirDoc.Value.Basic

/-!
# Options

The command line options of the two sources of documentation, C files and introspection files, and the
compiler flags that a configuration asks for.
-/

namespace GirDoc.Options

/-! ## Declared options -/

/-- One step in declaring options: what is declared, with its arguments and named settings. -/
structure Declaration where
  method : String
  arguments : List Value := []
  settings : List (String × Value) := []

/-- The options of one source of documentation. -/
structure Group where
  lead : String
  /-- The title of the index that is generated for it. -/
  indexTitle : String
  declarations : List Declaration
  /-- The other sources that have to be there, and whether they come first. -/
  dependencies : List (String × Bool)

/-- An option that stores one or more texts. -/
def storing (flag : String) (settings : List (String × Value)) : Declaration :=
  { method := "add_argument"
    arguments := [.text flag]
    settings := ("action", .text "store") :: settings }

/-- The options for C sources. -/
def forC : Group where
  lead := "c"
  indexTitle := "C API Reference"
  declarations := [
    { method := "add_argument_group"
      arguments := [.text "C extension",
        .text "\nParse C source files to extract comments and symbols.\n"] },
    { method := "add_index_argument" },
    { method := "add_sources_argument" },
    { method := "add_paths_argument"
      arguments := [.text "include-directories"]
      settings := [("help_", .text "List extra include directories here")] },
    storing "--pkg-config-packages" [("nargs", .text "+"), ("dest", .text "pkg_config_packages"),
      ("help", .text "Packages the library depends upon")],
    storing "--extra-c-flags" [("nargs", .text "+"), ("dest", .text "extra_c_flags"),
      ("help", .text "Extra C flags (-D, -U, ..)")]]
  dependencies := []

/-- The options for introspection files. -/
def forIntrospection : Group where
  lead := "gi"
  indexTitle := "GObject API Reference"
  declarations := [
    { method := "add_argument_group"
      arguments := [.text "GObject-introspection extension",
        .text ("\nParse a gir file and add signals, properties, classes\nand virtual methods.\n\n"
          ++ "Can output documentation for various\nlanguages.\n\n"
          ++ "Must be used in combination with the C extension.\n")] },
    { method := "add_index_argument" },
    { method := "add_sources_argument", settings := [("allow_filters", .bool false)] },
    storing "--languages" [("nargs", .text "*"),
      ("help", .text ("Languages to translate documentation in (c, python,javascript), default is "
        ++ "to make all languages"))]]
  dependencies := [("c-extension", true)]

/-! ## Compiler flags -/

/-- Why a configuration cannot be read. -/
inductive Failure where
  /-- A value that holds no items was to be gone through, or cannot be a key. -/
  | wrongType
  /-- There is no package of that name. -/
  | noPackage
  /-- A value that is no text was to be split. -/
  | notText
  deriving Repr, DecidableEq

/-- The items of a value: those of a list, the characters of a text, the keys of a dictionary. -/
def itemsOf : Value → Except Failure (List Value)
  | .list items => .ok items
  | .text s => .ok (s.toList.map fun c => .text (String.ofList [c]))
  | .dict entries => .ok (entries.map fun (key, _) => .text key)
  | _ => .error .wrongType

/-- The items of a setting; one that counts as false has none. -/
def settingItems (config : List (String × Value)) (key : String) : Except Failure (List Value) :=
  match config.lookup key with
  | some v => if v.truthy then itemsOf v else .ok []
  | none => .ok []

/-- What is known of a package. -/
def packageFlags (packages : List (String × Value)) (package : Value) :
    Except Failure (List String) :=
  match package with
  | .list _ | .dict _ => .error .wrongType
  | .text name => match packages.lookup name with
    | some (.text flags) => .ok (Text.splitAll ' ' flags)
    | some _ => .error .notText
    | none => .error .noPackage
  | _ => .error .noPackage

/-- The words of an extra flag. -/
def extraFlags : Value → Except Failure (List String)
  | .text s => .ok (Text.words s)
  | _ => .error .notText

/-- The compiler flags of a configuration: those of its packages, then the extra ones. -/
def flags (packages config : List (String × Value)) : Except Failure (List String) := do
  let ofPackages ← (← settingItems config "pkg_config_packages").mapM (packageFlags packages)
  let extra ← (← settingItems config "extra_c_flags").mapM extraFlags
  pure (ofPackages.flatten ++ extra.flatten)

end GirDoc.Options
