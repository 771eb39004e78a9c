import StableFleet.Reconcile.Basic
import StableFleet.Validation.Deep

/-!
# Flows that are made of lookups

A reconciliation, and the check of a manifest against an archive, do nothing but look
records up, one after another, and pass over the failures of that. So a property that one
reading after another has when both have it is a property of these flows as soon as it is
one of such lookups.
-/

namespace StableFleet

/-- A property of readings that those that do nothing have, and that one reading after
another has when both have it. -/
structure Reading.Composes (holds : (α : Type) → Reading α → Prop) : Prop where
  pure : ∀ {α : Type} (result : α), holds α (Pure.pure result)
  bind : ∀ {α β : Type} {reading : Reading α} {after : α → Reading β}, holds α reading →
    (∀ result, holds β (after result)) → holds β (reading >>= after)

namespace Reading.Composes

variable {holds : (α : Type) → Reading α → Prop} (composes : Composes holds)
  (looksUp : ∀ buildTarget version, holds _
    (ArchiveReader.unlessStopped (ArchiveReader.firmwareVersions buildTarget version)))
  (finds : ∀ buildTarget model version, holds _
    (ArchiveReader.unlessStopped (ArchiveReader.firmwareVersion buildTarget model version)))

include composes

/-- Scanning the versions of a board looks up their records in turn. -/
theorem scanFrom (buildTarget : String) (records : Table ModelFirmware) {versions : List String}
    (scanned : ∀ version ∈ versions, holds _
      (ArchiveReader.unlessStopped (ArchiveReader.firmwareVersions buildTarget version))) :
    holds _ (Reconcile.scanFrom buildTarget records versions) := by
  induction versions generalizing records with
  | nil => exact composes.pure records
  | cons version versions inductionHypothesis =>
    obtain ⟨here, later⟩ := List.forall_mem_cons.mp scanned
    refine composes.bind here fun answer => ?_
    cases answer with
    | ok record => exact inductionHypothesis _ later
    | error error => exact inductionHypothesis _ later

/-- Scanning boards looks up the records of the versions that those with a name refer to. -/
theorem scanBoards {boards : List (String × BoardVersions)}
    (scanned : ∀ board ∈ boards, board.1 ≠ "" → ∀ version ∈ board.2.relevant, holds _
      (ArchiveReader.unlessStopped (ArchiveReader.firmwareVersions board.1 version))) :
    holds _ (Reconcile.scanBoards boards) := by
  induction boards with
  | nil => exact composes.pure []
  | cons board boards inductionHypothesis =>
    obtain ⟨here, later⟩ := List.forall_mem_cons.mp scanned
    simp only [Reconcile.scanBoards]
    split
    · exact inductionHypothesis later
    · next named =>
      have scans := here (by simpa using named)
      refine composes.bind (composes.scanFrom _ _ scans) fun records => ?_
      exact composes.bind (inductionHypothesis later) fun scans => composes.pure _

/-- A reconciliation looks up the records of the versions that boards with a name refer
to. -/
theorem reconcile_collected {old : Manifest} {releases : List BoardRelease}
    (scanned : ∀ board ∈ (BoardVersions.collect old releases).toList, board.1 ≠ "" →
      ∀ version ∈ board.2.relevant, holds _
        (ArchiveReader.unlessStopped (ArchiveReader.firmwareVersions board.1 version))) :
    holds _ (StableFleet.reconcile old releases) :=
  composes.bind (composes.scanBoards scanned) fun _ => composes.pure _

include looksUp in
/-- A reconciliation looks records up in turn. -/
theorem reconcile (old : Manifest) (releases : List BoardRelease) :
    holds _ (StableFleet.reconcile old releases) :=
  composes.reconcile_collected fun _ _ _ _ _ => looksUp _ _

/-- The check of an operating-system entry looks up the record of the entry at most. -/
theorem checkOs (progress : Deep.Progress) {entry : VersionEntry}
    (checked : holds _ (ArchiveReader.unlessStopped
      (ArchiveReader.firmwareVersions entry.key.buildTarget entry.version))) :
    holds _ (Deep.checkOs progress entry) := by
  unfold Deep.checkOs
  split
  · exact composes.pure _
  · refine composes.bind checked fun answer => ?_
    cases answer with
    | ok record => exact composes.pure _
    | error error => exact composes.pure _

/-- The check of a firmware entry looks up one record at most, that of its board at the
version found for its device. -/
theorem checkFirmware {progress : Deep.Progress} {entry : VersionEntry}
    (checked : ∀ version, progress.found.get? (Deep.deviceName entry.key) = some version →
      holds _ (ArchiveReader.unlessStopped
        (ArchiveReader.firmwareVersion entry.key.buildTarget entry.key.model version))) :
    holds _ (Deep.checkFirmware progress entry) := by
  unfold Deep.checkFirmware
  dsimp only
  split
  · exact composes.pure _
  · split
    · exact composes.pure _
    · next version known =>
      refine composes.bind (checked version known) fun answer => ?_
      cases answer with
      | error error => exact composes.pure _
      | ok firmware =>
        dsimp only
        split
        · exact composes.pure _
        · exact composes.pure _

/-- Checks of entries in turn have the property when each check has. -/
theorem checkAll {check : Deep.Progress → VersionEntry → Reading Deep.Progress}
    (each : ∀ progress entry, holds _ (check progress entry)) (progress : Deep.Progress)
    (entries : List VersionEntry) : holds _ (Deep.checkAll check progress entries) := by
  induction entries generalizing progress with
  | nil => exact composes.pure progress
  | cons entry entries inductionHypothesis =>
    exact composes.bind (each progress entry) fun next => inductionHypothesis next

include looksUp finds in
/-- The check of a manifest looks records up in turn. -/
theorem validate (manifest : Manifest) : holds _ (Deep.validate manifest) := by
  have checksOs (progress : Deep.Progress) (entry : VersionEntry) :
      holds _ (Deep.checkOs progress entry) := composes.checkOs progress (looksUp _ _)
  have checksFirmware (progress : Deep.Progress) (entry : VersionEntry) :
      holds _ (Deep.checkFirmware progress entry) := composes.checkFirmware fun _ _ => finds _ _ _
  refine composes.bind (composes.checkAll checksOs _ _) fun progress => ?_
  refine composes.bind (composes.checkAll checksFirmware _ _) fun finished => ?_
  exact composes.pure _

end Reading.Composes

end StableFleet
