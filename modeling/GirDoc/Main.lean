import GirDoc.Sections

/-!
# The command line

`girdoc-sections IN OUT` converts the section file `IN` and writes the result to `OUT`. The bytes of a
file are taken one character each, since the conversion looks at ASCII characters only.
-/

namespace GirDoc.Main

/-- A file converted, byte for byte. -/
def convertBytes (bytes : ByteArray) : ByteArray :=
  let text := String.ofList (bytes.toList.map fun b => Char.ofNat b.toNat)
  ⟨((Sections.convert text).toList.map fun c => c.toNat.toUInt8).toArray⟩

end GirDoc.Main

/-- Converts a section file. -/
def main (args : List String) : IO UInt32 := do
  match args with
  | [source, target] =>
    IO.FS.writeBinFile target (GirDoc.Main.convertBytes (← IO.FS.readBinFile source))
    return 0
  | _ =>
    (← IO.getStderr).putStrLn "usage: girdoc-sections IN OUT"
    return 2
