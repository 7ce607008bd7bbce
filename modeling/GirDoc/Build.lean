import GirDoc.FileTree
import GirDoc.Text.Blank

/-!
# Building the package

What the package says of itself, which packages it holds, and how its generated scanner is kept up to
date: the scanner is generated anew if it is missing or older than one of its sources, and it joins the
sources of its module in every build.
-/

namespace GirDoc.Build

/-! ## The source directory -/

/-- A source of the package by its place in the top directory. -/
def sourcePath (name : String) : String := Path.join "/" name

/-- Files with their times of modification. -/
structure Disk where
  tree : FileTree
  times : List (String × Int)

namespace Disk

/-- The time of a file that nothing else is said of. -/
def usualTime : Int := 1000

/-- The time of a directory that nothing else is said of: all directories are newer than files. -/
def directoryTime : Int := 1000000000

/-- The time of what a path leads to. -/
def time (d : Disk) (path : String) : Except PathFault Int :=
  (d.tree.find path).map fun
    | .file place _ => (d.times.lookup place).getD usualTime
    | .dir place => (d.times.lookup place).getD directoryTime

/-- Writes an empty file at a given time. -/
def write (d : Disk) (path : String) (time : Int) : Except PathFault Disk :=
  match d.tree.placeOf path, d.tree.truncate path with
  | .ok place, .ok tree => .ok { tree, times := (place, time) :: d.times }
  | .error e, _ => .error e
  | _, .error e => .error e

end Disk

/-! ## Extension modules -/

/-- An extension module. `grammars` are the sources of a generated scanner; a plain module has none
of its own to build. -/
structure Module where
  name : String
  sources : List String
  grammars : Option (List String)
  deriving Repr, Inhabited

/-- Why a build stops. -/
inductive Failure where
  /-- The scanner generator failed. -/
  | generator
  /-- A source of the scanner is not found. -/
  | noSource (path : String) (e : PathFault)
  /-- The scanner cannot be put in its place. -/
  | noTarget (path : String) (e : PathFault)
  deriving Repr, DecidableEq

/-- What is said of a failure. -/
def Failure.message? : Failure → Option String
  | generator => some "Make sure flex is installed on your system"
  | noSource .. => none
  | noTarget .. => none

/-- What happens in a build. -/
inductive Event where
  | custom (name : String) (buildPath : Option String)
  | spawn (command : List String)
  | run
  deriving Repr, DecidableEq

/-- The scanner that is generated from grammars: a file of a fixed name beside the first of them. -/
def scannerPath (first : String) : String :=
  sourcePath (Path.join (Path.parent first) "scanner.c")

/-- Whether some source is newer than a time, looked at in order up to the first that is. -/
def anyNewer (d : Disk) (time : Int) : List String → Except Failure Bool
  | [] => .ok false
  | path :: rest =>
    match d.time path with
    | .error e => .error (.noSource path e)
    | .ok t => if time < t then .ok true else anyNewer d time rest

/-- Whether a target has to be made from its sources. -/
def outdated (d : Disk) (sources : List String) (target : String) : Except Failure Bool :=
  match d.time target with
  | .error _ => .ok true
  | .ok time => anyNewer d time sources

/-- The state of a build: the disk, and what has happened. -/
structure State where
  disk : Disk
  events : List Event := []

/-- The time of a scanner that was just generated. -/
def generatedTime : Int := 2000

/-- Builds what is special about a module: with grammars, the scanner joins the sources and is
generated if it has to be. The module is changed even if that fails. -/
def Module.buildCustom (m : Module) (generatorWorks : Bool) (buildPath : Option String)
    (s : State) : Module × State × Option Failure :=
  match m.grammars with
  | none => (m, s, none)
  | some grammars =>
    let s := { s with events := s.events ++ [.custom m.name buildPath] }
    match grammars.map sourcePath with
    | [] => (m, s, none)
    | first :: rest =>
      let target := scannerPath first
      let m := { m with sources := m.sources ++ [target] }
      match outdated s.disk (first :: rest) target with
      | .error e => (m, s, some e)
      | .ok false => (m, s, none)
      | .ok true =>
        let s := { s with events := s.events ++ [.spawn (["flex", "-o", target] ++ first :: rest)] }
        if !generatorWorks then (m, s, some .generator)
        else match s.disk.write target generatedTime with
          | .error e => (m, s, some (.noTarget target e))
          | .ok disk => (m, { s with disk }, none)

/-- Where a module is built: the directory of the last output that it is named after. -/
def buildPath (name : String) (outputs : List String) : Option String :=
  outputs.foldl (fun found output =>
    if name.endsWith (Path.stem (Path.base output)) then some (Path.parent output) else found) none

/-- Builds the modules at the places `order`, up to the first failure. A module may be built more than
once. -/
def runModules (generatorWorks : Bool) (outputs : List String) (modules : List Module) (s : State) :
    List Nat → List Module × State × Option Failure
  | [] => (modules, s, none)
  | i :: rest =>
    match modules[i]? with
    | none => runModules generatorWorks outputs modules s rest
    | some m =>
      match m.buildCustom generatorWorks (buildPath m.name outputs) s with
      | (m, s, some e) => (modules.set i m, s, some e)
      | (m, s, none) => runModules generatorWorks outputs (modules.set i m) s rest

/-- One run of the build: the modules at the places `order`, then the usual steps. -/
def run (generatorWorks : Bool) (outputs : List String) (disk : Disk) (modules : List Module)
    (order : List Nat) : List Module × State × Option Failure :=
  match runModules generatorWorks outputs modules { disk } order with
  | (modules, s, none) => (modules, { s with events := s.events ++ [.run] }, none)
  | stopped => stopped

/-! ## The package -/

/-- Whether a package is left out by its full name: the one of the installer, and caches. What lies below
them is not left out with them. -/
def isLeftOut (dotted : String) : Bool := dotted = "ez_setup" || dotted.endsWith "__pycache__"

/-- Searches for packages below a directory: a directory is one if it holds an initial module and
its name has no point in it. `depth` bounds the nesting. -/
def packagesBelow (t : FileTree) : (depth : Nat) → (dir dotted : String) → List String
  | 0, _, _ => []
  | depth + 1, dir, dotted =>
    ((t.list dir).toOption.getD []).flatMap fun name =>
      let path := Path.join dir name
      if t.isDir path && !name.toList.contains '.' && t.isFile (Path.join path "__init__.py") then
        let dotted := if dotted.isEmpty then name else dotted ++ "." ++ name
        let below := packagesBelow t depth path dotted
        if isLeftOut dotted then below else dotted :: below
      else []

/-- The longest path of a tree bounds how deep it nests. -/
def nesting (t : FileTree) : Nat :=
  (t.files.map fun (path, _) => path.length).foldl max 0 + 1

/-- The packages of a tree, sorted. -/
def packages (t : FileTree) : List String :=
  (packagesBelow t (nesting t) "/" "").mergeSort (fun a b => decide (a ≤ b))

/-- The module with the comment scanner. -/
def scannerModule : Module :=
  { name := "hotdoc_c_extension.c_comment_scanner.c_comment_scanner"
    sources := ["hotdoc_c_extension/c_comment_scanner/scannermodule.c"]
    grammars := some ["hotdoc_c_extension/c_comment_scanner/scanner.l"] }

/-- The files that the module with the comment scanner depends on. -/
def scannerDepends : List String :=
  ["hotdoc_c_extension/c_comment_scanner/scanner.l",
    "hotdoc_c_extension/c_comment_scanner/scanner.h"]

/-- The version of the package, from the file that holds it. -/
def version (t : FileTree) : Except ReadFailure String :=
  (t.readText "hotdoc_c_extension/VERSION.txt").map Text.trim

end GirDoc.Build
