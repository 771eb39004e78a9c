import StableFleet.Archive.Backend
import StableFleet.Program
import StableFleet.Text.Bytes

/-!
# What the flows ask for

The flows reach outside in these ways only: they look whether they were told to
stop, fetch objects of an archive, use the repository of the manifest, and read
and write files. Each request has its type of answer.
-/

namespace StableFleet

/-- A request of a flow to its surroundings. -/
inductive Request
  /-- Whether the operation was told to stop. -/
  | stopped
  /-- Copies an object of an archive to a file, and gives what the file holds. -/
  | download (backend : Backend) (remote : String) (target : Path)
  /-- Whether an archive has an object. -/
  | probe (backend : Backend) (remote : String)
  /-- Reads an object of an object store. -/
  | readObject (remote : String)
  /-- Reads what an address on a network holds. -/
  | readAddress (address : String)
  /-- Makes a checkout of one branch of a repository. -/
  | clone (address branch : String) (checkout : Path)
  /-- Brings one revision into a checkout. -/
  | fetch (checkout : Path) (revision : String)
  /-- Reads a file of a revision. -/
  | showFile (checkout : Path) (revision path : String)
  /-- Commits one file of a checkout. -/
  | commit (checkout : Path) (path message : String)
  /-- Pushes what a checkout has committed. -/
  | push (checkout : Path) (target : String)
  /-- Makes a directory that nothing else uses. -/
  | makeScratch
  /-- Removes such a directory with all it holds. -/
  | dropScratch (directory : Path)
  /-- Reads a file. -/
  | readFile (path : Path)
  /-- Writes a file. -/
  | writeFile (path : Path) (contents : Bytes)
  /-- Makes a directory and those above it. -/
  | makeDirectories (path : Path)
  deriving Repr, DecidableEq

/-- The type of the answer to a request. Where files fail, the answer is what
the system says about it. -/
@[reducible] def Request.Answer : Request → Type
  | .stopped => Bool
  | .download .. => Except Error Bytes
  | .probe .. => Except Error Bool
  | .readObject .. => Except Error Bytes
  | .readAddress .. => Except Error Bytes
  | .clone .. => Except Error Unit
  | .fetch .. => Except Error Unit
  | .showFile .. => Except Error Bytes
  | .commit .. => Except Error Unit
  | .push .. => Except Error Unit
  | .makeScratch => Except String Path
  | .dropScratch .. => Unit
  | .readFile .. => Except String Bytes
  | .writeFile .. => Except String Unit
  | .makeDirectories .. => Except String Unit

/-- A program of the flows. -/
abbrev Flow := Program Request Request.Answer

/-- Asks the surroundings for one thing. -/
def Flow.ask (request : Request) : Flow request.Answer := Program.request request

/-- A flow that may fail. -/
abbrev Attempt := ExceptT Error Flow

namespace Attempt

/-- A request whose failures are failures of the flow. -/
def ask {α : Type} (request : Flow (Except Error α)) : Attempt α := ExceptT.mk request

/-- Goes on with a result, or fails with its failure. -/
def ofExcept {α : Type} (result : Except Error α) : Attempt α := ExceptT.mk (pure result)

/-- A request about files whose failures are failures of the flow. -/
def askFile {α : Type} (request : Flow (Except String α)) : Attempt α :=
  ExceptT.mk (request >>= fun answer => pure (answer.mapError Error.file))

/-- Goes on unless the operation was told to stop. -/
def checkpoint : Attempt Unit :=
  ExceptT.mk (Flow.ask .stopped >>= fun stopped =>
    pure (if stopped then .error .cancelled else .ok ()))

/-- Reads a file. -/
def readFile (path : Path) : Attempt Bytes := askFile (Flow.ask (.readFile path))

/-- Writes a file. -/
def writeFile (path : Path) (contents : Bytes) : Attempt Unit :=
  askFile (Flow.ask (.writeFile path contents))

end Attempt

end StableFleet
