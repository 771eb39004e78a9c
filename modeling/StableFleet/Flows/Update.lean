import StableFleet.Feed
import StableFleet.Flows.Lab
import StableFleet.Manifest.Document
import StableFleet.Reconcile.Basic
import StableFleet.Validation.Deep

/-!
# Updating the manifest

The feed is read and reconciled with the current manifest, and the new manifest
is checked against the archive. Only if no anomaly is left is anything written:
first the output that was asked for, and then, unless it is a dry run, the
manifest itself, into its file or as a proposal to the repository.
-/

namespace StableFleet

/-- What an update came to. -/
structure UpdateOutcome where
  reconciliation : Reconciliation
  /-- The canonical bytes of the new manifest. -/
  encoded : Bytes
  changes : List VersionChange
  /-- Whether the new manifest was written or proposed. -/
  proposed : Bool

namespace Lab

/-- The message of the commit that proposes a new manifest. -/
def updateMessage : String := "Update stable versions from the beta channel"

/-- Where a new manifest goes. -/
inductive Destination
  | file (path : Path)
  | review (repository : Repository) (checkout : Path)

/-- Reads the current manifest, and tells where a new one goes. -/
def readCurrent (lab : Lab) (source : ManifestSource) (workdir : Path) :
    Attempt (Bytes × Destination) :=
  match source with
  | .file path => do return (← Attempt.readFile path, .file path)
  | .repository revision => do
    let (bytes, repository, checkout) ← lab.readRepository revision workdir
    return (bytes, .review repository checkout)

/-- Reconciles a manifest with the feed and checks the outcome. -/
def reconcileAndCheck (lab : Lab) (old : Manifest) (releases : List BoardRelease)
    (workdir : Path) : Attempt Reconciliation := do
  let reader ← Attempt.ofExcept (lab.reader workdir)
  let (outcome, reader) ← Attempt.reading reader (reconcile old releases)
  let (report, _) ← Attempt.reading reader (Deep.validate outcome.manifest)
  refuseAnomalies (report.without lab.config.allowLists)
  return outcome

/-- Writes the output, if it is asked for. -/
def writeOutput (output : Option Path) (encoded : Bytes) : Attempt Unit :=
  match output with
  | some path => Attempt.writeFile path encoded
  | none => return ()

/-- Puts a new manifest where it goes. -/
def deliver (destination : Destination) (encoded : Bytes) : Attempt Unit := do
  Attempt.checkpoint
  match destination with
  | .file path => Attempt.writeFile path encoded
  | .review repository checkout => repository.propose checkout encoded updateMessage

/-- Updates the manifest from the feed at a location. -/
def update (lab : Lab) (source : ManifestSource) (feed : String) (dryRun : Bool)
    (output : Option Path) : Attempt UpdateOutcome :=
  Attempt.withScratch fun workdir => do
    let releases ← Attempt.ofExcept (Feed.parse (← Feed.fetch feed))
    let (bytes, destination) ← lab.readCurrent source workdir
    let old ← Attempt.ofExcept (Manifest.decode bytes)
    let outcome ← lab.reconcileAndCheck old releases workdir
    let encoded := outcome.manifest.encode
    writeOutput output encoded
    if !dryRun then
      deliver destination encoded
    return ⟨outcome, encoded, osChanges old outcome.manifest, !dryRun⟩

end Lab

end StableFleet
