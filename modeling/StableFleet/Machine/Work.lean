import StableFleet.Error
import StableFleet.Machine.Call

/-!
# Work of a machine

Work is a program of a machine that may fail. What the system says about files
becomes a failure of the work.
-/

namespace StableFleet

/-- A program of a machine that may fail. -/
abbrev Work := ExceptT Error Machine

namespace Work

/-- Goes on with a result, or fails with its failure. -/
def ofExcept {α : Type} (result : Except Error α) : Work α := ExceptT.mk (pure result)

/-- A call about files whose failures are failures of the work. -/
def onFiles {α : Type} (call : Machine (Except String α)) : Work α :=
  ExceptT.mk do return (← call).mapError Error.file

/-- Makes the directory that holds a file, if it has one. -/
def makeParent (path : Path) : Work Unit :=
  match path.parent? with
  | some parent => onFiles (Machine.call (.makeDirectories parent))
  | none => return ()

/-- Runs a command. What the system says when there is no such command is a
failure in the words given. -/
def runCommand (arguments : List String) (unstarted : String → Error) : Work CommandOutput :=
  ExceptT.mk do return (← Machine.call (.run arguments)).mapError unstarted

/-- Reads a file. -/
def readFile (path : Path) : Work Bytes := onFiles (Machine.call (.readFile path))

/-- Writes a file. -/
def writeFile (path : Path) (contents : Bytes) : Work Unit :=
  onFiles (Machine.call (.writeFile path contents))

end Work

end StableFleet
