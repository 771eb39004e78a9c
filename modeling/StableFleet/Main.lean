import StableFleet.CommandLine.Execution
import StableFleet.Disk

/-!
# The program

The calls of a command line are answered by the files of the machine that the
program runs on. Commands and networks are out of its reach: a command counts as
not installed, and an address as one that cannot be reached.
-/

namespace StableFleet.CommandLine

/-- What the system says about a failure. -/
def describe : IO.Error → String
  | .noFileOrDirectory .. => Disk.Fault.notFound.message
  | error => toString error

/-- The result of an action, or what the system says about its failure. -/
def outcome {α : Type} (action : IO α) : IO (Except String α) := do
  try
    return .ok (← action)
  catch error =>
    return .error (describe error)

/-- Whether an action succeeds and gives a true answer. -/
def holds (action : IO Bool) : IO Bool := do
  return (← outcome action).toOption.getD false

/-- Answers a call. -/
def answer : (call : Call) → IO call.Answer
  | .stopped => return false
  | .run _ => return .error Disk.Fault.notFound.message
  | .readAddress _ => return .error "network unreachable"
  | .probeAddress _ => return .error "network unreachable"
  | .readFile path => outcome do return (← IO.FS.readBinFile path.text).data.toList
  | .writeFile path contents => outcome (IO.FS.writeBinFile path.text contents.toByteArray)
  | .copyFile source target => outcome do
    IO.FS.writeBinFile target.text (← IO.FS.readBinFile source.text)
  | .makeDirectories path => outcome (IO.FS.createDirAll path.text)
  | .removeTree path => outcome (IO.FS.removeDirAll path.text)
  | .pathExists path => holds do (← IO.FS.realPath path.text).pathExists
  | .isFile path => holds do
    let place ← IO.FS.realPath path.text
    return (← place.pathExists) && !(← place.isDir)
  | .makeScratch => outcome do return ⟨(← IO.FS.createTempDir).toString⟩
  | .dropScratch directory => do
    let _ ← outcome (IO.FS.removeDirAll directory.text)

/-- What the program finds around it. -/
def surroundings : IO Environment := do
  return {
    configFile := ← IO.getEnv "LABFLEET_CONFIG"
    configHome := ← IO.getEnv "XDG_CONFIG_HOME"
    home := ← IO.getEnv "HOME" }

/-- Runs the program on a command line, and gives its exit code. -/
def run (words : List String) : IO UInt32 := do
  let exit ← Program.serve answer (runProgram (← surroundings) words)
  (← IO.getStdout).write exit.stdout.toByteArray
  (← IO.getStderr).putStr exit.stderr
  return exit.code.toUInt32

end StableFleet.CommandLine

/-- Runs the program on the words of its command line. -/
def main (words : List String) : IO UInt32 := StableFleet.CommandLine.run words
