import GirDoc.Text.Split

/-!
# Paths

Paths are texts with slashes. Every path is seen from the top directory, which is also the current one.
-/

namespace GirDoc.Path

/-- Joins a directory and a path; an absolute path stands for itself. -/
def join (dir path : String) : String :=
  if path.startsWith "/" then path
  else if dir.isEmpty || dir.endsWith "/" then dir ++ path
  else dir ++ "/" ++ path

/-- Joins several parts from the left. -/
def joinAll (dir : String) (parts : List String) : String :=
  parts.foldl join dir

/-- What follows the last slash. -/
def base (path : String) : String :=
  (Text.splitAll '/' path).getLast?.getD ""

/-- What stands before the last slash; trailing slashes of it go, unless it has nothing else. -/
def parent (path : String) : String :=
  let cs := path.toList
  let head := (cs.reverse.dropWhile (· ≠ '/')).reverse
  let trimmed := (head.reverse.dropWhile (· = '/')).reverse
  String.ofList (if trimmed.isEmpty then head else trimmed)

/-- The name of a file without its last extension; leading points belong to the name. -/
def stem (name : String) : String :=
  let cs := name.toList
  let points := cs.takeWhile (· = '.')
  let rest := cs.dropWhile (· = '.')
  let head := (rest.reverse.dropWhile (· ≠ '.')).reverse
  if head.isEmpty then name else String.ofList (points ++ head.dropLast)

/-- Resolves the parts of a path from the left; `done` holds the parts so far, last one first. -/
def resolveParts (done : List String) : List String → List String
  | [] => done.reverse
  | part :: rest =>
    if part.isEmpty || part = "." then resolveParts done rest
    else if part = ".." then resolveParts (done.drop 1) rest
    else resolveParts (part :: done) rest

/-- The place of a path in the tree of files: one slash, and its parts without empty ones, `.` and `..`. -/
def resolved (path : String) : String :=
  "/" ++ "/".intercalate (resolveParts [] (Text.splitAll '/' path))

/-- The absolute form of a path. Two slashes in front, no more and no less, are kept: what they mean is up to the
system. -/
def absolute (path : String) : String :=
  if (path.toList.takeWhile (· = '/')).length = 2 then "/" ++ resolved path else resolved path

end GirDoc.Path
