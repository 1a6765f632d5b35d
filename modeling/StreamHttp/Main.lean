import StreamHttp.Exchange.Identifier
import StreamHttp.Launch

/-!
The program: serves the demonstration application over standard input and output.
-/

namespace StreamHttp.Main

partial def readOnto (stream : IO.FS.Stream) (collected : ByteArray) : IO ByteArray := do
  let chunk ← stream.read 65536
  if chunk.isEmpty then return collected
  else readOnto stream (collected ++ chunk)

def settingsText (arguments : List String) : IO (Except String String) := do
  match CommandLine.read arguments with
  | .ok { settingsFile := some path, .. } =>
      try return .ok (← IO.FS.readFile path)
      catch error => return .error (toString error)
  | _ => return .ok ""

def isServing (arguments : List String) : Bool :=
  match CommandLine.read arguments with
  | .ok _ => true
  | .error _ => false

end StreamHttp.Main

open StreamHttp in
def main (arguments : List String) : IO UInt32 := do
  let text ← Main.settingsText arguments
  let input ←
    if Main.isServing arguments then Main.readOnto (← IO.getStdin) ByteArray.empty
    else pure ByteArray.empty
  let seed := (← IO.getRandomBytes 16).toList.foldl (fun number byte => number * 256 + byte.toNat) 0
  let exit := Launch.run arguments
    { file := fun _ => text
      input := Source.ofParts [input.toList] none
      ids := fun index => Identifier.ofNumber (seed + index) }
  let output ← IO.getStdout
  output.write (ByteArray.mk exit.output.toArray)
  output.flush
  if let some complaint := exit.complaint then (← IO.getStderr).putStrLn ("error: " ++ complaint)
  return exit.code.toUInt32
