import StableFleet.Machine.Work
import StableFleet.Text.Blank

/-!
# Objects of an object store

Objects are copied, looked for and read by the command `gsutil`, which is asked
to say nothing of its progress. A command that fails is reported by what was
asked of it and what it said.
-/

namespace StableFleet.ObjectStore

/-- The name of the command. -/
def command : String := "gsutil"

/-- How a call of the command is named in messages. -/
def line (words : List String) (object : String) : String :=
  " ".intercalate (command :: words ++ [object])

/-- The failure of a command that could not be started. -/
def unstarted (words : List String) (object reason : String) : Error :=
  .command (line words object) reason

/-- The failure of a command that did not do what it should. -/
def failed (words : List String) (object : String) (output : CommandOutput) : Error :=
  .command (line words object) (Text.Blank.trim (Bytes.replaceInvalid output.stderr))

/-- Copies an object to a file. -/
def copy (object : String) (target : Path) : Work Unit := do
  Work.makeParent target
  let output ← Work.runCommand [command, "-q", "cp", object, target.text] (unstarted ["cp"] object)
  if output.succeeded then return ()
  else throw (failed ["cp"] object output)

/-- Whether a byte is a blank of the ASCII range. -/
def isBlankByte (byte : UInt8) : Bool :=
  byte = 0x20 || byte = 0x09 || byte = 0x0A || byte = 0x0C || byte = 0x0D

/-- Whether there is an object. The command fails without a word when there is
none. -/
def has (object : String) : Work Bool := do
  let words := ["-q", "stat"]
  let output ← Work.runCommand (command :: words ++ [object]) (unstarted words object)
  if output.succeeded then return true
  else if output.stderr.all isBlankByte then return false
  else throw (failed words object output)

/-- Reads an object. -/
def read (object : String) : Work Bytes := do
  let words := ["cat"]
  let output ← Work.runCommand (command :: words ++ [object]) (unstarted words object)
  if output.succeeded then return output.stdout
  else throw (failed words object output)

end StableFleet.ObjectStore
