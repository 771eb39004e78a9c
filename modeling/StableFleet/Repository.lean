import StableFleet.Request

/-!
# The repository of the manifest

The manifest is kept under version control. It is read from a checkout, at the
head of a branch or at a given revision, and a new manifest is proposed by
committing it to the checkout and pushing the commit for review. A step is taken
only while the operation was not told to stop.
-/

namespace StableFleet

/-- Where the manifest is kept under version control. -/
structure Repository where
  address : String
  branch : String
  manifestPath : String
  /-- Where commits are pushed to. -/
  pushTarget : String
  deriving Repr, DecidableEq

namespace Repository

/-- The name of the checkout below a working directory. -/
def checkoutName : String := "manifest-repo"

/-- The revision that was fetched last. -/
def fetchedRevision : String := "FETCH_HEAD"

/-- The revision that a checkout starts from. -/
def headRevision : String := "HEAD"

/-- Makes a checkout below a working directory. -/
def checkout (repository : Repository) (workdir : Path) : Attempt Path := do
  Attempt.checkpoint
  let directory := workdir.join checkoutName
  Attempt.ask (Flow.ask (.clone repository.address repository.branch directory))
  return directory

/-- Brings a revision into a checkout, if one is asked for, and gives the name it
has there. -/
def obtain (checkout : Path) : Option String → Attempt String
  | none => return headRevision
  | some revision => do
    Attempt.ask (Flow.ask (.fetch checkout revision))
    Attempt.checkpoint
    return fetchedRevision

/-- Reads the manifest of a revision, or of the head of the branch. -/
def readManifest (repository : Repository) (checkout : Path) (revision : Option String) :
    Attempt Bytes := do
  Attempt.checkpoint
  let name ← obtain checkout revision
  Attempt.ask (Flow.ask (.showFile checkout name repository.manifestPath))

/-- Makes the directory that holds a file, if it has one. -/
def makeParent (path : Path) : Attempt Unit :=
  match path.parent? with
  | some parent => Attempt.askFile (Flow.ask (.makeDirectories parent))
  | none => return ()

/-- Writes a new manifest into a checkout, commits it and pushes the commit. -/
def propose (repository : Repository) (checkout : Path) (contents : Bytes) (message : String) :
    Attempt Unit := do
  Attempt.checkpoint
  let target := checkout.join repository.manifestPath
  makeParent target
  Attempt.writeFile target contents
  Attempt.ask (Flow.ask (.commit checkout repository.manifestPath message))
  Attempt.checkpoint
  Attempt.ask (Flow.ask (.push checkout repository.pushTarget))

end Repository

end StableFleet
