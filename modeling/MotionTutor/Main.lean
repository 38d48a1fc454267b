import MotionTutor.Cli.Run
import Std.Time.DateTime.Timestamp

/-!
# The program

The command line on real files, with the clock and the environment of the machine.
-/

namespace MotionTutor

/-- The fault that an error of the system stands for. -/
def FileFault.ofError : IO.Error → FileFault
  | .noFileOrDirectory .. | .noSuchThing .. => .notFound
  | .alreadyExists .. => .alreadyExists
  | .inappropriateType _ code _ => if code = 21 ∨ code = -21 then .isDirectory else .notDirectory
  | .invalidArgument _ code _ => if code = 36 ∨ code = -36 then .nameTooLong else .other
  | _ => .other

/-- An operation of the system on some paths, with its errors as faults. -/
def attempt {α : Type} (paths : List String) (action : IO α) : ExceptT FileFault IO α :=
  ExceptT.mk do
    if paths.all Path.isValid then
      try return .ok (← action)
      catch e => return .error (.ofError e)
    else return .error .invalidPath

instance : FileSystem IO where
  readText path := attempt [path] (IO.FS.readFile path)
  writeText path content := attempt [path] (IO.FS.writeFile path content)
  createDirectory path := attempt [path] (IO.FS.createDir path)
  rename source target := attempt [source, target] (IO.FS.rename source target)
  removeFile path := attempt [path] (IO.FS.removeFile path)

def readEnvironment : IO Environment := do
  return ⟨← IO.getEnv "HOME", ← IO.getEnv "XDG_CONFIG_HOME", ← IO.getEnv "XDG_DATA_HOME", none⟩

/-- A random word. -/
def randomWord : IO UInt64 := do
  let bytes ← IO.getRandomBytes 8
  return bytes.toList.foldl (fun word byte => word * 256 + byte.toUInt64) 0

def readSurroundings : IO Cli.Surroundings := do
  let now := (← Std.Time.Timestamp.now).toSecondsSinceUnixEpoch
  return ⟨← readEnvironment, ⟨now.val, 0⟩, ← randomWord⟩

end MotionTutor

def main (arguments : List String) : IO UInt32 := do
  let around ← MotionTutor.readSurroundings
  let result : MotionTutor.Cli.Exit ← MotionTutor.Cli.run around arguments
  IO.print result.output
  if let some error := result.error then
    IO.eprintln ("Error: " ++ error)
  if result.code = 2 then
    IO.eprintln "error: invalid arguments; try --help"
  return UInt32.ofNat result.code
