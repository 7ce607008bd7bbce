import GirDoc.Fault
import GirDoc.FileTree
import GirDoc.Gzip
import GirDoc.Xml.Reader

/-!
# Documents in files

A document is looked for at its path. Where there is nothing, percent signs in the path are taken for
escapes of bytes. A directory can be opened, but no document is in it. A packed file is unpacked.

The tree of files hangs somewhere on a machine, of which nothing else is known. An address in a document that
leads out of the tree leads to nothing.
-/

namespace GirDoc.Gir

open Xml (Element)

/-! ## Addresses of files -/

/-- Where the tree of files hangs on the machine. -/
def mount : String := "/tree"

/-- The place of a path on the machine. Paths without a slash in front are seen from the top of the tree. -/
def placeOf (path : String) : String := if path.startsWith "/" then mount ++ path else path

/-- A path without escapes; `none` if its bytes are no text. -/
def unescapePath? (path : String) : Option String :=
  Text.Utf8.decode? (Xml.Uri.unescape path.toUTF8.toList)

/-- The beginnings of addresses of files; the path of the file begins with their last character. -/
def addressStarts : List String := ["file://localhost/", "file:///", "file:/"]

/-- The path in an address of a file; a path stands for itself. -/
def addressPath (address : String) : String :=
  match addressStarts.find? fun start => (address.map Char.toLower).startsWith start with
  | some start => String.ofList (address.toList.drop (start.length - 1))
  | none => address

/-- What is at a place of the machine. -/
def findPlace (t : FileTree) (place : String) : Except PathFault FileTree.Entry :=
  if place.startsWith "/" then
    if place = mount || place.startsWith (mount ++ "/") then
      t.find ("/" ++ String.ofList (place.toList.drop mount.length))
    else .error .missing
  else t.find place

/-- What is opened at an address. -/
def openAddress (t : FileTree) (address : String) : Except PathFault FileTree.Entry :=
  match findPlace t (addressPath address), unescapePath? address with
  | .error _, some plain => findPlace t (addressPath plain)
  | result, _ => result

/-- The bytes that can be read from what was opened. There are none in a directory or in a broken file. -/
def readable? : FileTree.Entry → Option (List UInt8)
  | .file _ bytes => Gzip.unpack? bytes
  | .dir _ => none

/-- The bytes of a document. -/
def documentBytes (t : FileTree) (path : String) : Except Fault (List UInt8) :=
  match openAddress t (placeOf path) with
  | .ok entry => match readable? entry with
    | some bytes => .ok bytes
    | none => .error .malformed
  | .error _ => .error .unreadable

/-- The bytes at an address. -/
def bytesAt? (t : FileTree) (address : String) : Option (List UInt8) :=
  match openAddress t address with
  | .ok entry => some ((readable? entry).getD [])
  | .error _ => none

/-! ## Documents -/

/-- Two slashes at the front stand for one. -/
def oneSlash (address : String) : String :=
  match address.toList with
  | '/' :: '/' :: c :: rest => if c = '/' then address else String.ofList ('/' :: c :: rest)
  | _ => address

/-- The directory of a place on the machine. -/
def directoryOf (place : String) : String :=
  if place.toList.contains '/' then
    let lead := place.toList.reverse.dropWhile (· ≠ '/')
    if lead.length = 1 then "/" else String.ofList (lead.drop 1).reverse
  else mount

/-- Where the document at a path is, and what is around it. -/
def sourceOf (t : FileTree) (path : String) : Xml.Source :=
  { address := placeOf path
    directory := directoryOf (placeOf path)
    fetch := fun address => bytesAt? t (oneSlash address) }

/-- The root of the document in a file. -/
def readDocument (t : FileTree) (path : String) : Except Fault Element :=
  match documentBytes t path with
  | .error e => .error e
  | .ok bytes => match Xml.read? (sourceOf t path) bytes with
    | some root => .ok root
    | none => .error .malformed

end GirDoc.Gir
