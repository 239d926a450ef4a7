import TiffStrip.Program.Run

namespace TiffStrip

def PathError.ofSystem (error : IO.Error) : PathError :=
  let coded := fun (details : String) (code : UInt32) =>
    PathError.other (details ++ s!" (os error {code})")
  match error with
  | .noFileOrDirectory .. => .missing
  | .inappropriateType _ code details => coded details code
  | .permissionDenied _ code details => coded details code
  | .resourceExhausted _ code details => coded details code
  | .invalidArgument _ code details => coded details code
  | .otherError code details => coded details code
  | error => .other (toString error)

/-- What an action answers, or the error it ends with. -/
def attempt {α : Type} (action : IO α) : IO (Except PathError α) := do
  try
    return .ok (← action)
  catch error =>
    return .error (.ofSystem error)

/-- How many bytes a file holds. What opens as a file but cannot be read, such as a directory, counts
as empty: the error is left to the reading. -/
def countBytes (handle : IO.FS.Handle) : IO Nat := do
  let mut count := 0
  try
    repeat
      let part ← handle.read 65536
      if part.isEmpty then break
      count := count + part.size
    return count
  catch _ =>
    return 0

def systemFiles : FileSystem IO where
  size path := attempt do
    countBytes (← IO.FS.Handle.mk path .read)
  read path := attempt do
    return (← IO.FS.readBinFile path).data
  write path content := attempt do
    IO.FS.writeBinFile path ⟨content.bytes Png.encode⟩

def environment : IO (List (String × String)) := do
  let names := [CommandLine.Slot.image, .json, .format, .maxInputSize].filterMap
    CommandLine.Slot.envName?
  names.filterMapM fun name => do
    return (← IO.getEnv name).map fun value => (name, value)

end TiffStrip

open TiffStrip in
def main (words : List String) : IO UInt32 := do
  let result ← run systemFiles words (← environment)
  IO.print result.stdout
  IO.eprint result.stderr
  for event in result.log do
    IO.eprintln event.line
  return UInt32.ofNat result.exitCode
