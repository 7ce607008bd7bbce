import GirDoc.Path
import GirDoc.Text.Portion

/-!
# File trees

The files and directories that a run can see. Files are kept by their absolute paths. A path is followed
part by part: what stands before a slash has to be a directory, also before `..`.
-/

namespace GirDoc

/-- A tree of files. A directory exists if it is listed or if something below it exists. -/
structure FileTree where
  files : List (String × List UInt8) := []
  dirs : List String := []
  deriving Inhabited

/-- Why a path does not lead to what is wanted. -/
inductive PathFault where
  /-- There is nothing. -/
  | missing
  /-- A file stands where a directory is needed. -/
  | notDirectory
  /-- A directory stands where a file is needed. -/
  | isDirectory
  /-- A name is longer than a name can be. -/
  | tooLong
  /-- A name has a character that no name has. -/
  | unnamable
  deriving Repr, DecidableEq

namespace FileTree

/-- Whether `path` lies below the directory `dir`; both are absolute. -/
def isBelow (dir path : String) : Bool :=
  if dir = "/" then path ≠ "/" else path.startsWith (dir ++ "/")

/-- Whether there is a directory at an absolute path. -/
def hasDir (t : FileTree) (p : String) : Bool :=
  p = "/" || t.dirs.contains p || t.dirs.any (isBelow p) || t.files.any fun (f, _) => isBelow p f

/-- What a path leads to, with its absolute path. -/
inductive Entry where
  | file (path : String) (bytes : List UInt8)
  | dir (path : String)
  deriving Repr

/-- The longest name, in bytes. -/
def longestName : Nat := 255

/-- Follows the parts of a path from a directory on. -/
def follow (t : FileTree) (dir : String) : List String → Except PathFault Entry
  | [] => .ok (.dir dir)
  | part :: rest =>
    if part.isEmpty || part = "." then t.follow dir rest
    else if part = ".." then t.follow (Path.resolved (Path.join dir "..")) rest
    else if longestName < part.utf8ByteSize then .error .tooLong
    else
      let path := Path.join dir part
      match t.files.lookup path with
      | some bytes => if rest.isEmpty then .ok (.file path bytes) else .error .notDirectory
      | none => if t.hasDir path then t.follow path rest else .error .missing

/-- What a path leads to. -/
def find (t : FileTree) (path : String) : Except PathFault Entry :=
  if path.toList.contains '\x00' then .error .unnamable
  else if path.isEmpty then .error .missing
  else t.follow "/" (Text.splitAll '/' path)

/-- The bytes of a file. -/
def read (t : FileTree) (path : String) : Except PathFault (List UInt8) :=
  match t.find path with
  | .ok (.file _ bytes) => .ok bytes
  | .ok (.dir _) => .error .isDirectory
  | .error e => .error e

/-- Whether there is a file at a path. -/
def isFile (t : FileTree) (path : String) : Bool :=
  match t.find path with
  | .ok (.file ..) => true
  | _ => false

/-- Whether there is a directory at a path. -/
def isDir (t : FileTree) (path : String) : Bool :=
  match t.find path with
  | .ok (.dir _) => true
  | _ => false

/-- Whether there is anything at a path. -/
def pathExists (t : FileTree) (path : String) : Bool :=
  match t.find path with
  | .ok _ => true
  | .error _ => false

/-- Where a file at a path is, or would be made. -/
def placeOf (t : FileTree) (path : String) : Except PathFault String :=
  match t.find path with
  | .ok (.file place _) => .ok place
  | .ok (.dir _) => .error .isDirectory
  | .error .missing =>
    if path.isEmpty then .error .missing
    else match t.find (Path.join "/" (Path.parent path)) with
      | .ok (.dir dir) =>
        if (Path.base path).isEmpty then .error .isDirectory
        else .ok (Path.join dir (Path.base path))
      | .ok (.file ..) => .error .notDirectory
      | .error e => .error e
  | .error e => .error e

/-- Empties a file, or makes an empty one. -/
def truncate (t : FileTree) (path : String) : Except PathFault FileTree :=
  (t.placeOf path).map fun place => { t with files := (place, []) :: t.files }

/-- The first part of a path below a directory. -/
def childName? (dir path : String) : Option String :=
  if isBelow dir path then
    let rest := path.toList.drop (if dir = "/" then 1 else dir.length + 1)
    some (String.ofList (rest.takeWhile (· ≠ '/')))
  else none

/-- The names in a directory, sorted. -/
def list (t : FileTree) (dir : String) : Except PathFault (List String) :=
  match t.find dir with
  | .ok (.dir d) =>
    let names := (t.files.map Prod.fst ++ t.dirs).filterMap (childName? d)
    .ok ((names.eraseDups).mergeSort (fun a b => decide (a ≤ b)))
  | .ok (.file ..) => .error .notDirectory
  | .error e => .error e

end FileTree

/-- Why a file gives no text. -/
inductive ReadFailure where
  | noFile (e : PathFault)
  | notText
  deriving Repr, DecidableEq

/-- The text of a file, with unified newlines. -/
def FileTree.readText (t : FileTree) (path : String) : Except ReadFailure String :=
  match t.read path with
  | .error e => .error (.noFile e)
  | .ok bytes => match Text.Utf8.decodeChars? bytes with
    | none => .error .notText
    | some cs => .ok (String.ofList (Text.unifyNewlines cs))

/-- The lines of a file, as they come. -/
def FileTree.readLines (t : FileTree) (path : String) : Except PathFault Text.LinesRead :=
  (t.read path).map Text.readLines

end GirDoc
