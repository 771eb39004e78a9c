import StableFleet.Proofs.Archive.Keeping
import StableFleet.Reconcile.Basic
import StableFleet.Validation.Deep

/-!
# Where a flow has its records from

A reconciliation, and the check of a manifest against an archive, have the records of
builds from some source. Here each of the two is written over the source, and otherwise
as it is. With the lookups of a reader that keeps records as the source, they are the
flows themselves. The other source of interest downloads a record each time that it is
asked for, and keeps none.
-/

namespace StableFleet

/-- What is done to have the record of a build. -/
abbrev RecordSource := String → String → Reading ModelFirmware

/-- Downloads the record of a build and reads it, without regard to what was downloaded
before. -/
def ArchiveReader.downloadRecord : RecordSource := fun buildTarget version =>
  ExceptT.mk fun reader => do
    let (answer, fetches) ← (reader.fetchRecord buildTarget version).run reader.fetches
    return (answer, { reader with fetches := fetches })

/-- The answer to a download and what can be read of it is all that a plain download
comes to. -/
theorem ArchiveReader.perform_downloadRecord {σ : Type} (host : Host σ) (session : Session σ)
    (buildTarget version : String) :
    (downloadRecord buildTarget version).perform host session =
      ((Run.serve host (session.reader.downloadOf buildTarget version) session.run).1.bind
          (Metadata.parse buildTarget),
        ⟨{ session.reader with fetches := session.reader.fetches + 1 },
          (Run.serve host (session.reader.downloadOf buildTarget version) session.run).2⟩) := rfl

namespace RecordSource

variable (source : RecordSource)

/-- The firmware of one model of a build. -/
def firmware (buildTarget model version : String) : Reading String := do
  match (← source buildTarget version).get? model with
  | some firmware => return firmware
  | none => throw (.failedToLookup buildTarget model)

/-- Adds the records that the source has for some versions of a build target. -/
def scanFrom (buildTarget : String) :
    Table ModelFirmware → List String → Reading (Table ModelFirmware)
  | records, [] => return records
  | records, version :: versions => do
    match ← ArchiveReader.unlessStopped (source buildTarget version) with
    | .ok record => scanFrom buildTarget (records.insert version record) versions
    | .error _ => scanFrom buildTarget records versions

/-- What the source has on each board. -/
def scanBoards : List (String × BoardVersions) → Reading (List BoardScan)
  | [] => return []
  | (buildTarget, versions) :: boards => do
    if buildTarget.isEmpty then scanBoards boards
    else
      let records ← source.scanFrom buildTarget Table.empty versions.relevant
      return ⟨buildTarget, versions, records⟩ :: (← scanBoards boards)

/-- Reconciles a manifest with the versions of the feed, with records of the source. -/
def reconcile (old : Manifest) (releases : List BoardRelease) : Reading Reconciliation := do
  return Reconcile.assemble old (← source.scanBoards (BoardVersions.collect old releases).toList)

/-- Checks an operating-system entry. -/
def checkOs (progress : Deep.Progress) (entry : VersionEntry) : Reading Deep.Progress :=
  match Deep.offendingName? entry.key with
  | some name => return progress.noteCapitals name
  | none => do
    match ← ArchiveReader.unlessStopped (source entry.key.buildTarget entry.version) with
    | .ok _ => return progress.noteFound entry.key entry.version
    | .error _ => return progress.noteMissing entry.key.buildTarget

/-- Checks a firmware entry. -/
def checkFirmware (progress : Deep.Progress) (entry : VersionEntry) : Reading Deep.Progress :=
  let device : BoardModel := ⟨entry.key.buildTarget, entry.key.model⟩
  if (Deep.offendingName? entry.key).isSome then return progress.noteCapitals device.allowKey
  else match progress.found.get? (Deep.deviceName entry.key) with
    | none => return progress.noteFailed device
    | some version => do
      match ← ArchiveReader.unlessStopped
          (source.firmware device.buildTarget device.model version) with
      | .error _ => return progress.noteFailed device
      | .ok firmware =>
        if firmware = entry.version then return progress
        else return progress.noteMismatch ⟨device, firmware, entry.version⟩

/-- The report on a manifest, by the records of the source. -/
def validate (manifest : Manifest) : Reading Report := do
  let progress ← Deep.checkAll source.checkOs {} manifest.cros
  return (← Deep.checkAll source.checkFirmware progress manifest.firmware).report

/-- Scanning with the lookups of the reader is scanning the versions of a board. -/
theorem scanFrom_lookups (buildTarget : String) (records : Table ModelFirmware)
    (versions : List String) :
    scanFrom ArchiveReader.firmwareVersions buildTarget records versions =
      Reconcile.scanFrom buildTarget records versions := by
  induction versions generalizing records with
  | nil => rfl
  | cons version versions inductionHypothesis =>
    refine congrArg (ArchiveReader.unlessStopped _ >>= ·) (funext fun answer => ?_)
    cases answer with
    | ok record => exact inductionHypothesis _
    | error error => exact inductionHypothesis _

/-- Scanning with the lookups of the reader is scanning the boards. -/
theorem scanBoards_lookups (boards : List (String × BoardVersions)) :
    scanBoards ArchiveReader.firmwareVersions boards = Reconcile.scanBoards boards := by
  induction boards with
  | nil => rfl
  | cons board boards inductionHypothesis =>
    simp only [scanBoards, Reconcile.scanBoards, Reconcile.scanVersions, scanFrom_lookups,
      inductionHypothesis]

/-- With the lookups of the reader, the flow is the reconciliation. -/
theorem reconcile_lookups (old : Manifest) (releases : List BoardRelease) :
    reconcile ArchiveReader.firmwareVersions old releases = StableFleet.reconcile old releases := by
  rw [reconcile, scanBoards_lookups]
  rfl

/-- With the lookups of the reader, the flow is the check against the archive. -/
theorem validate_lookups (manifest : Manifest) :
    validate ArchiveReader.firmwareVersions manifest = Deep.validate manifest := rfl

end RecordSource

end StableFleet
