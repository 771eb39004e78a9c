import StableFleet.Disk
import StableFleet.Machine.Call

/-!
# Machines whose files are on a disk

The calls of a machine that are about files are answered by a disk, which stays
as it is when something cannot be done. The other calls go to what the machine
has around it: commands, a network, and someone who may tell it to stop.
-/

namespace StableFleet

/-- What a machine has besides its files. -/
structure Surroundings (m : Type → Type) where
  /-- Whether the operation was told to stop. -/
  stopped : m Bool
  /-- Runs a command given by its name and its arguments. -/
  runCommand : List String → m (Except String CommandOutput)
  /-- Reads what an address on a network holds. -/
  readAddress : String → m (Except String Bytes)
  /-- Whether an address on a network holds anything. -/
  probeAddress : String → m (Except String Bool)
  /-- The directory that nothing else uses. -/
  scratch : Path

namespace Disk

/-- The outcome of an operation that changes a disk, in the words of the system,
and the disk after it. -/
def attempt (disk : Disk) (operation : Disk → Except Fault Disk) : Except String Unit × Disk :=
  match operation disk with
  | .ok changed => (.ok (), changed)
  | .error fault => (.error fault.message, disk)

variable {m : Type → Type} [Monad m] [MonadStateOf Disk m]

/-- Changes the disk. -/
def change (operation : Disk → Except Fault Disk) : m (Except String Unit) :=
  modifyGet fun disk => disk.attempt operation

/-- What the file at a path holds. -/
def contents (path : Path) : m (Except String Bytes) := do
  return ((← get).read path).mapError Fault.message

end Disk

/-- Answers the calls of a machine whose files are on a disk. -/
def Surroundings.serve {m : Type → Type} [Monad m] [MonadStateOf Disk m]
    (surroundings : Surroundings m) : (call : Call) → m call.Answer
  | .stopped => surroundings.stopped
  | .run arguments => surroundings.runCommand arguments
  | .readAddress address => surroundings.readAddress address
  | .probeAddress address => surroundings.probeAddress address
  | .readFile path => Disk.contents path
  | .writeFile path contents => Disk.change fun disk => disk.write path contents
  | .copyFile source target => Disk.change fun disk => disk.copy source target
  | .makeDirectories path => Disk.change fun disk => disk.makeDirectories path
  | .removeTree path => Disk.change fun disk => disk.removeTree path
  | .pathExists path => do return (← get).contains path
  | .isFile path => do return (← get).isFile path
  | .makeScratch => do
    let made ← Disk.change fun disk => disk.makeDirectories surroundings.scratch
    return made.map fun _ => surroundings.scratch
  | .dropScratch directory => do
    let _ ← Disk.change (m := m) fun disk => disk.removeTree directory

end StableFleet
