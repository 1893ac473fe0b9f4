import Runbook.Command.Program
import Runbook.Log.Line
import Std.Time.DateTime.Timestamp

/-!
# The command line

The program on the machine of the operating system: its files, its clock and its two streams. Results go to
standard output; remarks and log lines go to standard error.
-/

namespace Runbook.Main

/-- Why the operating system cannot read or write a file. -/
def fileError : IO.Error → FileError
  | .noFileOrDirectory .. => .notFound
  | .inappropriateType _ 21 _ => .isFolder
  | .inappropriateType .. => .notFolder
  | .invalidArgument _ 36 _ => .tooLong
  | .invalidArgument _ 22 _ => .unwritable
  | error => .refused error.toString

/-- The outcome of an action on a file. -/
def attempt {α : Type} (action : IO α) : IO (Except FileError α) := do
  try return .ok (← action)
  catch error => return .error (fileError error)

/-- Writes something to the stream where it belongs. -/
def put (now : Int) : Output → IO Unit
  | .line text => IO.println text
  | .remark text => IO.eprintln text
  | .record record =>
    match (Log.Line.ofRecord (.ofMillis now) record).write with
    | .ok text => IO.eprintln text
    | .error _ => IO.eprintln record.message

/-- Lets some seconds pass. -/
def sleep (seconds : Float) : IO Unit :=
  IO.sleep (seconds * 1000.0).toUInt32

/-- The machine of the operating system at a time. -/
def machine (now : Int) : Machine IO :=
  { now := now
    read := fun path => attempt (IO.FS.readBinFile path.write)
    write := fun path text => attempt do
      IO.FS.createDirAll path.folder.write
      IO.FS.writeFile path.write text
    sleep := sleep
    put := put now }

/-- The variables of the environment that are settings. -/
def environment : IO (List (String × String)) := do
  let found ← Settings.names.mapM fun (name, _) => do
    return (← IO.getEnv name).map fun value => (name, value)
  return found.filterMap id

/-- The code with which the program ends, and what is said about settings that stop it. -/
def exitCode : Ending → Nat × Option String
  | .stopped .usage => (2, none)
  | .stopped _ => (0, none)
  | .exited code => (code.toNat, none)
  | .undecodableSettings => (1, some s!"{Settings.fileName.write} cannot be decoded")
  | .unknownLevel name => (1, some s!"Unknown level: '{name}'")

/-- Calls the program with arguments. -/
def run (args : List String) : IO UInt32 := do
  let time ← Std.Time.Timestamp.now
  let now := time.toMillisecondsSinceUnixEpoch.val
  let (code, remark) := exitCode (← Program.call (machine now) (← environment) args)
  if let some text := remark then IO.eprintln text
  return UInt32.ofNat code

end Runbook.Main

/-- The entry of the program. -/
def main (args : List String) : IO UInt32 :=
  Runbook.Main.run args
