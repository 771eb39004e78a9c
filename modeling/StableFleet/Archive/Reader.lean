import StableFleet.Archive.Cache
import StableFleet.Request

/-!
# Reading an archive

A reader looks up the firmware of builds in one archive. Records are downloaded
below a working directory and kept, so each is fetched successfully at most
once. A record that cannot be had is reported by its build; only being told to
stop is reported as such.
-/

namespace StableFleet

/-- A reader of one archive. -/
structure ArchiveReader where
  backend : Backend
  root : String
  workdir : Path
  cache : FirmwareCache := .empty
  fetches : Nat := 0
  deriving DecidableEq

/-- A part of a flow that reads an archive. The reader goes on after a failure
with what it has kept. -/
abbrev Reading := ExceptT Error (StateT ArchiveReader Flow)

/-- A reading run with a reader, which is given back whatever happens. -/
def Reading.with {α : Type} (reading : Reading α) (reader : ArchiveReader) :
    Flow (Except Error α × ArchiveReader) :=
  reading.run.run reader

namespace ArchiveReader

/-- A reader of the archive at a root. Slashes at the end of the root do not
count. -/
def new (backend : Backend) (root : String) (workdir : Path) : ArchiveReader where
  backend := backend
  root := String.ofList ((root.toList.reverse.dropWhile (· == '/')).reverse)
  workdir := workdir

/-- Where the archive has the record of a build. -/
def metadataPath (reader : ArchiveReader) (buildTarget version : String) : String :=
  reader.root ++ "/" ++ buildTarget ++ "-release/" ++ version ++ "/metadata.json"

/-- Where the record of a build is downloaded to. -/
def downloadPath (reader : ArchiveReader) (buildTarget version : String) : Path :=
  ((reader.workdir.join buildTarget).join version).join "metadata.json"

/-- Downloads the record of a build, counts the fetch, and reads the firmware
that the record has. -/
def fetchRecord (reader : ArchiveReader) (buildTarget version : String) :
    StateT Nat Flow (Except Error ModelFirmware) := do
  modify (· + 1)
  let answer ← Flow.ask <| .download reader.backend
    (reader.metadataPath buildTarget version) (reader.downloadPath buildTarget version)
  return answer.bind (Metadata.parse buildTarget)

/-- How a failed fetch is reported. -/
def reportFetch (buildTarget version : String) : Error → Error
  | .cancelled => .cancelled
  | error => .archiveUnavailable buildTarget version error.message

/-- The firmware of a build, fetched when it is not kept. -/
def firmwareVersions (buildTarget version : String) : Reading ModelFirmware :=
  ExceptT.mk fun reader => do
    if ← Flow.ask .stopped then
      return (.error .cancelled, reader)
    else
      let ((answer, cache), fetches) ← (reader.cache.getOrFetch buildTarget version
        (reader.fetchRecord buildTarget version)).run reader.fetches
      return (answer.mapError (reportFetch buildTarget version),
        { reader with cache := cache, fetches := fetches })

/-- The firmware of one model of a build. -/
def firmwareVersion (buildTarget model version : String) : Reading String := do
  match (← firmwareVersions buildTarget version).get? model with
  | some firmware => return firmware
  | none => throw (.failedToLookup buildTarget model)

/-- A reading whose failures count as nothing, unless it was told to stop. -/
def unlessStopped {α : Type} (reading : Reading α) : Reading (Except Error α) :=
  ExceptT.mk fun reader => do
    let (answer, reader) ← reading.with reader
    match answer with
    | .error .cancelled => return (.error .cancelled, reader)
    | other => return (.ok other, reader)

end ArchiveReader

end StableFleet
