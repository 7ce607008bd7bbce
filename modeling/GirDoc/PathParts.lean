import GirDoc.Text.Split

/-!
# Parts of paths

A path as its root and its names. Empty names and single points do not count, and of several paths in a
row an absolute one makes those before it void.
-/

namespace GirDoc

/-- A path in parts. -/
structure PathParts where
  root : String := ""
  names : List String := []
  deriving Repr, DecidableEq

namespace PathParts

/-- The names of a path. -/
def namesOf (path : String) : List String :=
  (Text.splitAll '/' path).filter fun name => name ≠ "" && name ≠ "."

/-- The root of a path: two slashes are a root of their own, any other number of them is one. -/
def rootOf (path : String) : String :=
  match (path.toList.takeWhile (· = '/')).length with
  | 0 => ""
  | 2 => "//"
  | _ => "/"

/-- Goes on with another path. -/
def append (p : PathParts) (path : String) : PathParts :=
  if (rootOf path).isEmpty then { p with names := p.names ++ namesOf path }
  else { root := rootOf path, names := namesOf path }

/-- The parts of several paths in a row. -/
def ofPaths (paths : List String) : PathParts :=
  paths.foldl append {}

/-- All parts, the root among them. -/
def all (p : PathParts) : List String :=
  if p.root.isEmpty then p.names else p.root :: p.names

/-- The path of parts. -/
def path (p : PathParts) : String :=
  let text := p.root ++ "/".intercalate p.names
  if text.isEmpty then "." else text

end PathParts

end GirDoc
