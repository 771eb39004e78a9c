import StableFleet.Archive.Reader
import StableFleet.Manifest.Order
import StableFleet.Reconcile.BoardVersions

/-!
# Reconciling a manifest with the feed

The archive is asked once for every version that a board refers to. The models
in the records it has are the models of the new manifest. Each takes its best
version with the firmware of the record at that version; where that record does
not name the model, the old firmware is kept together with the version it was
approved for. Models without a valid version, and models without any firmware,
are left out and named.
-/

namespace StableFleet

/-- The outcome of a reconciliation. -/
structure Reconciliation where
  manifest : Manifest := {}
  /-- Models without firmware in the archive or the old manifest. -/
  novel : List BoardModel := []
  /-- Models without a valid version. -/
  invalid : List BoardModel := []
  deriving Repr, DecidableEq

/-- What the archive has on the versions of a board. -/
structure BoardScan where
  buildTarget : String
  versions : BoardVersions
  records : Table ModelFirmware
  deriving DecidableEq

/-- What becomes of a model. -/
inductive ModelOutcome
  | approved (version firmware : String)
  | novel
  | invalid
  deriving Repr, DecidableEq

namespace Reconcile

/-- Adds the records that the archive has for some versions of a build target. -/
def scanFrom (buildTarget : String) :
    Table ModelFirmware → List String → Reading (Table ModelFirmware)
  | records, [] => return records
  | records, version :: versions => do
    match ← ArchiveReader.unlessStopped (ArchiveReader.firmwareVersions buildTarget version) with
    | .ok record => scanFrom buildTarget (records.insert version record) versions
    | .error _ => scanFrom buildTarget records versions

/-- The records that the archive has for some versions of a build target. -/
def scanVersions (buildTarget : String) (versions : List String) : Reading (Table ModelFirmware) :=
  scanFrom buildTarget Table.empty versions

/-- What the archive has on each board. Boards without a name are passed over. -/
def scanBoards : List (String × BoardVersions) → Reading (List BoardScan)
  | [] => return []
  | (buildTarget, versions) :: boards => do
    if buildTarget.isEmpty then scanBoards boards
    else
      let records ← scanVersions buildTarget versions.relevant
      return ⟨buildTarget, versions, records⟩ :: (← scanBoards boards)

/-- The models that the records of a board name, in order. -/
def models (scan : BoardScan) : List String :=
  (TextSet.ofList (scan.records.values.flatMap Table.keys)).toList

/-- The firmware on record for a model, with the version it was approved for. -/
def fallback? (old : Manifest) (scan : BoardScan) (model : String) : Option (String × String) := do
  let firmware ← old.firmwareFor? scan.buildTarget model
  let version ←
    if scan.versions.legacy.isEmpty then scan.versions.perModel.get? model
    else some scan.versions.legacy
  return (version, firmware)

/-- What becomes of a model of a board. -/
def decide (old : Manifest) (scan : BoardScan) (model : String) : ModelOutcome :=
  match scan.versions.best? model with
  | none => .invalid
  | some best =>
    match (scan.records.get? best).bind fun record => record.get? model with
    | some firmware => .approved best firmware
    | none =>
      match fallback? old scan model with
      | some (version, firmware) => .approved version firmware
      | none => .novel

/-- What becomes of the models of a board, in order. -/
def decisions (old : Manifest) (scan : BoardScan) : List (BoardModel × ModelOutcome) :=
  (models scan).map fun model => (⟨scan.buildTarget, model⟩, decide old scan model)

/-- The operating-system entry of a model that is approved. -/
def osEntry? : BoardModel × ModelOutcome → Option VersionEntry
  | (device, .approved version _) => some ⟨⟨device.buildTarget, device.model⟩, version⟩
  | _ => none

/-- The firmware entry of a model that is approved. -/
def firmwareEntry? : BoardModel × ModelOutcome → Option VersionEntry
  | (device, .approved _ firmware) => some ⟨⟨device.buildTarget, device.model⟩, firmware⟩
  | _ => none

/-- The models with a given outcome. -/
def withOutcome (outcome : ModelOutcome) (decided : List (BoardModel × ModelOutcome)) :
    List BoardModel :=
  (decided.filter fun decision => decision.2 = outcome).map (·.1)

/-- The new manifest and the models left out, once the archive has been asked. -/
def assemble (old : Manifest) (scans : List BoardScan) : Reconciliation :=
  let decided := scans.flatMap (decisions old)
  { manifest := { old with
      cros := decided.filterMap osEntry?
      firmware := decided.filterMap firmwareEntry? }.sort
    novel := withOutcome .novel decided
    invalid := withOutcome .invalid decided }

end Reconcile

/-- Reconciles a manifest with the versions of the feed. -/
def reconcile (old : Manifest) (releases : List BoardRelease) : Reading Reconciliation := do
  return Reconcile.assemble old (← Reconcile.scanBoards (BoardVersions.collect old releases).toList)

/-- A change of the operating-system version of a model. -/
structure VersionChange where
  device : BoardModel
  old : Option String
  new : String
  deriving Repr, DecidableEq

/-- The entries of a new manifest whose version is not the one on record, which
is that of the model or else that of the board. -/
def osChanges (old new : Manifest) : List VersionChange :=
  new.cros.filterMap fun entry =>
    let previous := (old.osFor? entry.key.buildTarget entry.key.model).or
      (old.osFor? entry.key.buildTarget "")
    if previous = some entry.version then none
    else some ⟨⟨entry.key.buildTarget, entry.key.model⟩, previous, entry.version⟩

end StableFleet
