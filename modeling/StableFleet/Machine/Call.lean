import StableFleet.Path
import StableFleet.Program
import StableFleet.Text.Bytes

/-!
# What a machine can do

A machine runs commands, reads addresses of a network, and keeps files. These
calls are all that the requests of the flows come down to.
-/

namespace StableFleet

/-- What a command left behind: its exit code and its two outputs. -/
structure CommandOutput where
  code : Nat
  stdout : Bytes := []
  stderr : Bytes := []
  deriving Repr, DecidableEq

/-- Whether a command did what it should. -/
def CommandOutput.succeeded (output : CommandOutput) : Bool := output.code == 0

/-- A call to a machine. -/
inductive Call
  /-- Whether the operation was told to stop. -/
  | stopped
  /-- Runs a command given by its name and its arguments. -/
  | run (arguments : List String)
  /-- Reads what an address on a network holds. -/
  | readAddress (address : String)
  /-- Whether an address on a network holds anything. -/
  | probeAddress (address : String)
  | readFile (path : Path)
  | writeFile (path : Path) (contents : Bytes)
  /-- Writes to a file what another one holds. -/
  | copyFile (source target : Path)
  /-- Makes a directory and those above it. -/
  | makeDirectories (path : Path)
  /-- Removes a directory with all it holds. -/
  | removeTree (path : Path)
  /-- Whether anything is at a path. -/
  | pathExists (path : Path)
  /-- Whether a file is at a path. -/
  | isFile (path : Path)
  /-- Makes a directory that nothing else uses. -/
  | makeScratch
  /-- Removes such a directory. -/
  | dropScratch (directory : Path)
  deriving Repr, DecidableEq

/-- The type of the answer to a call. Where a call fails, the answer is what the
system says about it. -/
@[reducible] def Call.Answer : Call → Type
  | .stopped => Bool
  | .run _ => Except String CommandOutput
  | .readAddress _ => Except String Bytes
  | .probeAddress _ => Except String Bool
  | .readFile _ => Except String Bytes
  | .writeFile .. => Except String Unit
  | .copyFile .. => Except String Unit
  | .makeDirectories _ => Except String Unit
  | .removeTree _ => Except String Unit
  | .pathExists _ => Bool
  | .isFile _ => Bool
  | .makeScratch => Except String Path
  | .dropScratch _ => Unit

/-- A program of a machine. -/
abbrev Machine := Program Call Call.Answer

/-- Makes one call. -/
def Machine.call (made : Call) : Machine made.Answer := Program.request made

end StableFleet
