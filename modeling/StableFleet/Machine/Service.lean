import StableFleet.Machine.ObjectStore
import StableFleet.Machine.VersionControl
import StableFleet.Request

/-!
# Serving the requests of the flows

Each request comes down to calls of a machine: objects are copied by the way the
archive is kept, the repository is used through checkouts, and the rest is about
files. A machine has no archive other than those it can reach.
-/

namespace StableFleet.Service

/-- The failure of an address that cannot be read. -/
def unreachable (address reason : String) : Error := .network address reason

/-- Reads what an address on a network holds. -/
def readAddress (address : String) : Work Bytes :=
  ExceptT.mk do
    return (← Machine.call (.readAddress address)).mapError (unreachable address)

/-- The failure of an archive that nothing supplies. -/
def unsupplied : Error := .config "no archive supplied" none

/-- Copies an object of an archive to a file. -/
def copy (backend : Backend) (remote : String) (target : Path) : Work Unit :=
  match backend with
  | .objectStore => ObjectStore.copy remote target
  | .disk => do
    let source ← Work.ofExcept (localPath remote)
    Work.makeParent target
    Work.onFiles (Machine.call (.copyFile source target))
  | .network => do
    let bytes ← readAddress remote
    Work.makeParent target
    Work.writeFile target bytes
  | .supplied => throw unsupplied

/-- Copies an object of an archive to a file, and gives what the file holds. -/
def download (backend : Backend) (remote : String) (target : Path) : Work Bytes := do
  copy backend remote target
  Work.readFile target

/-- Whether an archive has an object. -/
def probe (backend : Backend) (remote : String) : Work Bool :=
  match backend with
  | .objectStore => ObjectStore.has remote
  | .disk => do
    let path ← Work.ofExcept (localPath remote)
    ExceptT.lift (Machine.call (.isFile path))
  | .network => ExceptT.mk do
    return (← Machine.call (.probeAddress remote)).mapError (unreachable remote)
  | .supplied => throw unsupplied

/-- Serves a request. -/
def serve : (request : Request) → Machine request.Answer
  | .stopped => Machine.call .stopped
  | .download backend remote target => (download backend remote target).run
  | .probe backend remote => (probe backend remote).run
  | .readObject remote => (ObjectStore.read remote).run
  | .readAddress address => (readAddress address).run
  | .clone address branch checkout => (VersionControl.clone address branch checkout).run
  | .fetch checkout revision => (VersionControl.fetch checkout revision).run
  | .showFile checkout revision path => (VersionControl.showFile checkout revision path).run
  | .commit checkout path message => (VersionControl.commit checkout path message).run
  | .push checkout target => (VersionControl.push checkout target).run
  | .makeScratch => Machine.call .makeScratch
  | .dropScratch directory => Machine.call (.dropScratch directory)
  | .readFile path => Machine.call (.readFile path)
  | .writeFile path contents => Machine.call (.writeFile path contents)
  | .makeDirectories path => Machine.call (.makeDirectories path)

/-- A flow as a program of a machine. -/
def onMachine {α : Type} (flow : Flow α) : Machine α := Program.serve serve flow

end StableFleet.Service
