import StableFleet.Archive.Reader
import StableFleet.Config.Basic
import StableFleet.Repository

/-!
# What the flows work with

A flow works with a configuration. The archive and the repository are those of
the configuration unless others are supplied. The manifest is that of a file or
of the repository. Whatever a flow downloads or checks out goes into a scratch
directory, which is removed when the flow ends, however it ends.
-/

namespace StableFleet

/-- What a flow works with. -/
structure Lab where
  config : Config := {}
  /-- Whether an archive is supplied in place of the configured one. -/
  suppliesArchive : Bool := false
  /-- The repository that is supplied in place of the configured one. -/
  suppliedRepository : Option Repository := none

/-- Where the manifest is. -/
inductive ManifestSource
  | file (path : Path)
  | repository (revision : Option String)
  deriving Repr, DecidableEq

/-- Lets a reader read, and gives it back if nothing failed. -/
def Attempt.reading {α : Type} (reader : ArchiveReader) (reading : Reading α) :
    Attempt (α × ArchiveReader) :=
  ExceptT.mk do
    let (answer, reader) ← reading.with reader
    return answer.map fun result => (result, reader)

/-- An action with a scratch directory of its own. -/
def Attempt.withScratch {α : Type} (action : Path → Attempt α) : Attempt α :=
  ExceptT.mk do
    match ← Flow.ask .makeScratch with
    | .error reason => return .error (.file reason)
    | .ok directory =>
      let result ← (action directory).run
      Flow.ask (.dropScratch directory)
      return result

namespace Lab

/-- A reader of the archive that downloads below a working directory. -/
def reader (lab : Lab) (workdir : Path) : Except Error ArchiveReader :=
  let root := lab.config.archiveRoot
  if lab.suppliesArchive then .ok (ArchiveReader.new .supplied root workdir)
  else (Backend.ofRoot root).map fun backend => ArchiveReader.new backend root workdir

/-- The repository of the manifest. -/
def repository (lab : Lab) : Except Error Repository :=
  match lab.suppliedRepository with
  | some repository => .ok repository
  | none =>
    (Config.resolve none lab.config.manifestRepo "manifest_repo").map fun address =>
      ⟨address, lab.config.manifestBranch, lab.config.manifestPath, lab.config.pushRef⟩

/-- Reads the manifest of the repository, and gives the checkout as well. -/
def readRepository (lab : Lab) (revision : Option String) (workdir : Path) :
    Attempt (Bytes × Repository × Path) := do
  let repository ← Attempt.ofExcept lab.repository
  let checkout ← repository.checkout workdir
  let bytes ← repository.readManifest checkout revision
  return (bytes, repository, checkout)

/-- Fails when anomalies are left in a report. -/
def refuseAnomalies (report : Report) : Attempt Unit :=
  if report.count = 0 then return ()
  else throw (.anomalies report.count report)

end Lab

end StableFleet
