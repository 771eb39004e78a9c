import StableFleet.Path
import StableFleet.Text.Bytes

/-!
# Disks

A disk is a tree of directories and files, kept as what stands at each place.
Operations find a place by going along the names of a path, and say what is in
the way when they cannot. The root is always a directory.
-/

namespace StableFleet

/-- What stands at a place of a disk. -/
inductive Stored
  | file (contents : Bytes)
  | directory
  deriving Repr, DecidableEq

/-- A disk: what stands at each place but the root, and the place that paths
start from which do not start at the root. -/
structure Disk where
  entries : List (List String × Stored) := []
  here : List String := []
  deriving Repr

namespace Disk

/-- Why an operation on a disk cannot be done. -/
inductive Fault
  | notFound
  | occupied
  | notDirectory
  | isDirectory
  | nameTooLong
  | nulInName
  | notRegular
  | noParent
  deriving Repr, DecidableEq

/-- What the system says about a fault. -/
def Fault.message : Fault → String
  | notFound => "No such file or directory (os error 2)"
  | occupied => "File exists (os error 17)"
  | notDirectory => "Not a directory (os error 20)"
  | isDirectory => "Is a directory (os error 21)"
  | nameTooLong => "File name too long (os error 36)"
  | nulInName => "file name contained an unexpected NUL byte"
  | notRegular => "the source path is neither a regular file nor a symlink to a regular file"
  | noParent => "failed to create whole tree"

/-- What stands at a place. -/
def at? (disk : Disk) (place : List String) : Option Stored :=
  if place.isEmpty then some .directory
  else (disk.entries.find? fun entry => entry.1 = place).map (·.2)

/-- The disk with something put at a place. -/
def put (disk : Disk) (place : List String) (stored : Stored) : Disk :=
  { disk with
    entries := (place, stored) :: disk.entries.filter fun entry => entry.1 ≠ place }

/-- How many bytes a name may have. -/
def longestName : Nat := 255

/-- How many bytes a path may have. -/
def longestPath : Nat := 4095

/-- The place that is reached by going along names from a directory. -/
def walk (disk : Disk) : List String → List String → Except Fault (List String)
  | place, [] => .ok place
  | place, name :: names =>
    match disk.at? place with
    | some .directory =>
      if name = ".." then walk disk place.dropLast names
      else if longestName < name.utf8ByteSize then .error .nameTooLong
      else
        let next := place ++ [name]
        match disk.at? next with
        | some _ => walk disk next names
        | none => .error .notFound
    | some (.file _) => .error .notDirectory
    | none => .error .notFound

/-- The place that a path starts from. -/
def start (disk : Disk) (path : Path) : List String :=
  if path.isAbsolute then [] else disk.here

/-- A path whose text can be a path at all. -/
def checkText (path : Path) : Except Fault Unit :=
  if path.text.toList.contains '\x00' then .error .nulInName
  else if path.text.isEmpty then .error .notFound
  else if longestPath < path.text.utf8ByteSize then .error .nameTooLong
  else .ok ()

/-- The place that a path denotes, with what stands there. -/
def resolve (disk : Disk) (path : Path) : Except Fault (List String × Stored) := do
  checkText path
  let place ← disk.walk (disk.start path) path.names
  match disk.at? place with
  | none => throw .notFound
  | some (.file contents) =>
    if path.asksDirectory then throw .notDirectory else return (place, .file contents)
  | some .directory => return (place, .directory)

/-- Whether something stands at a path. -/
def contains (disk : Disk) (path : Path) : Bool :=
  match disk.resolve path with
  | .ok _ => true
  | .error _ => false

/-- Whether a file stands at a path. -/
def isFile (disk : Disk) (path : Path) : Bool :=
  match disk.resolve path with
  | .ok (_, .file _) => true
  | _ => false

/-- Whether a directory stands at a path. -/
def isDirectory (disk : Disk) (path : Path) : Bool :=
  match disk.resolve path with
  | .ok (_, .directory) => true
  | _ => false

/-- What the file at a path holds. -/
def read (disk : Disk) (path : Path) : Except Fault Bytes := do
  match ← disk.resolve path with
  | (_, .file contents) => return contents
  | (_, .directory) => throw .isDirectory

/-- The place of the last name of a path, in the directory before it. A path
without a last name, or whose last name goes up, has none. -/
def lastPlace (disk : Disk) (path : Path) : Except Fault (Option (List String)) := do
  checkText path
  match path.names.getLast? with
  | none => return none
  | some name =>
    let above ← disk.walk (disk.start path) path.names.dropLast
    match disk.at? above with
    | some .directory =>
      if name = ".." then return none
      else if longestName < name.utf8ByteSize then throw .nameTooLong
      else return some (above ++ [name])
    | some (.file _) => throw .notDirectory
    | none => throw .notFound

/-- The disk with a file written at a path. -/
def write (disk : Disk) (path : Path) (contents : Bytes) : Except Fault Disk := do
  match ← disk.lastPlace path with
  | none => throw .isDirectory
  | some place =>
    match disk.at? place with
    | some .directory => throw .isDirectory
    | some (.file _) =>
      if path.asksDirectory then throw .notDirectory else return disk.put place (.file contents)
    | none =>
      if path.asksDirectory then throw .isDirectory else return disk.put place (.file contents)

/-- The disk with a directory made at a path. -/
def makeDirectory (disk : Disk) (path : Path) : Except Fault Disk := do
  match ← disk.lastPlace path with
  | none => throw .occupied
  | some place =>
    match disk.at? place with
    | some _ => throw .occupied
    | none => return disk.put place .directory

/-- Makes a directory, which is well if one is there already. -/
def ensureDirectory (disk : Disk) (path : Path) : Except Fault Disk :=
  match disk.makeDirectory path with
  | .ok made => .ok made
  | .error fault => if disk.isDirectory path then .ok disk else .error fault

/-- The disk with a directory made at a path, and those above it where they are
missing; the bound limits how many are. -/
def makeDirectoriesWithin : Nat → Disk → Path → Except Fault Disk
  | 0, disk, path => disk.ensureDirectory path
  | bound + 1, disk, path =>
    if path.text.isEmpty then .ok disk
    else match disk.makeDirectory path with
      | .error .notFound =>
        match path.parent? with
        | some parent => do
          let above ← makeDirectoriesWithin bound disk parent
          above.ensureDirectory path
        | none => .error .noParent
      | _ => disk.ensureDirectory path

/-- The disk with a directory made at a path, and those above it. -/
def makeDirectories (disk : Disk) (path : Path) : Except Fault Disk :=
  makeDirectoriesWithin (path.names.length + 1) disk path

/-- The disk without what is at a place and below it. -/
def dropPlace (disk : Disk) (place : List String) : Disk :=
  { disk with entries := disk.entries.filter fun entry => !place.isPrefixOf entry.1 }

/-- The disk without a directory and all it holds. -/
def removeTree (disk : Disk) (path : Path) : Except Fault Disk := do
  match ← disk.resolve path with
  | (_, .file _) => throw .notDirectory
  | (place, .directory) => return disk.dropPlace place

/-- The disk with what one file holds written to another. -/
def copy (disk : Disk) (source target : Path) : Except Fault Disk := do
  match ← disk.resolve source with
  | (_, .directory) => throw .notRegular
  | (_, .file contents) => disk.write target contents

/-- The files below a directory, each by the names that lead to it from there. -/
def filesBelow (disk : Disk) (place : List String) : List (List String × Bytes) :=
  disk.entries.filterMap fun entry =>
    match entry.2 with
    | .file contents =>
      if place.isPrefixOf entry.1 then some (entry.1.drop place.length, contents) else none
    | .directory => none

end Disk

end StableFleet
