import StableFleet.Proofs.Flow.Shelf
import StableFleet.Proofs.Reconcile.Approval

/-!
# Versions on record are kept or raised

A reconciliation never gives a model a smaller version than the one on record for
it, with one exception that is meant: where the archive has no firmware of the
model at its best version, the firmware on record is kept together with the
version of the board, since the two were approved together. That version may be
smaller than the one on record for the model itself.
-/

namespace StableFleet

namespace Reconcile

/-- The versions that a manifest and a feed have for a build target. -/
def versionsOf (old : Manifest) (releases : List BoardRelease) (buildTarget : String) :
    BoardVersions :=
  ((BoardVersions.collect old releases).get? buildTarget).getD {}

/-- The scan of a board has the versions that were collected for it. -/
theorem versions_of_scan {σ : Type} {host : Host σ} {old : Manifest}
    {releases : List BoardRelease} {session : Session σ} {scan : BoardScan}
    (member : scan ∈ scans host old releases session) :
    scan.versions = versionsOf old releases scan.buildTarget ∧ scan.buildTarget ≠ "" ∧
      scan.records = recordsOf (survey host old releases session) scan.buildTarget := by
  obtain ⟨board, listed, rfl⟩ := List.mem_map.mp member
  obtain ⟨collected, nonempty⟩ := List.mem_filter.mp listed
  have held : (BoardVersions.collect old releases).get? board.1 = some board.2 :=
    Table.mem_toList_iff.mp collected
  refine ⟨?_, by simpa using nonempty, rfl⟩
  rw [versionsOf, held]
  rfl

/-- An operating-system entry falls back to the version of its board: the old
manifest has a version and firmware for the model itself, the board has a version
too, and no lookup of the model's best version has a record of the model. The entry
then has the version of the board, beside the old firmware. -/
structure FallsBack (old : Manifest) (releases : List BoardRelease) (looked : List Lookup)
    (outcome : Reconciliation) (entry : VersionEntry) : Prop where
  own : ((versionsOf old releases entry.key.buildTarget).perModel.get? entry.key.model).isSome = true
  board : (versionsOf old releases entry.key.buildTarget).legacy ≠ ""
  version : entry.version = (versionsOf old releases entry.key.buildTarget).legacy
  unrecorded : ∀ best record,
    (versionsOf old releases entry.key.buildTarget).best? entry.key.model = some best →
    ⟨entry.key.buildTarget, best, .ok record⟩ ∈ looked → record.get? entry.key.model = none
  firmware : ∃ firmware,
    old.firmwareFor? entry.key.buildTarget entry.key.model = some firmware ∧
      ⟨entry.key, firmware⟩ ∈ outcome.manifest.firmware

/-- In a reconciled manifest no operating-system entry has a smaller version than
the valid one on record for its model, unless it falls back to the version of its
board. -/
theorem reconcile_never_regresses {σ : Type} (host : Host σ) (old : Manifest)
    (releases : List BoardRelease) (session : Session σ) (outcome : Reconciliation)
    (succeeded : ((reconcile old releases).perform host session).1 = .ok outcome)
    (entry : VersionEntry) (present : entry ∈ outcome.manifest.cros) (pinned : OsVersion)
    (onRecord : OsVersion.parse?
      ((versionsOf old releases entry.key.buildTarget).pinned entry.key.model) = some pinned) :
    (∃ version, OsVersion.parse? entry.version = some version ∧ compare version pinned ≠ .lt) ∨
      FallsBack old releases (survey host old releases session) outcome entry := by
  obtain ⟨_, rfl⟩ := (reconcile_ok_iff _ _ _ _ _).mp succeeded
  obtain ⟨scan, member, ofBoard, named, firmware, approved⟩ := mem_cros_assemble.mp present
  obtain ⟨versions, nonempty, records⟩ := versions_of_scan member
  obtain ⟨best, found, chosen⟩ := decide_eq_approved_iff.mp approved
  rw [ofBoard, ← versions] at onRecord
  have unchanged (pin : scan.versions.pinned entry.key.model = entry.version) :
      ∃ version, OsVersion.parse? entry.version = some version ∧ compare version pinned ≠ .lt := by
    rw [pin] at onRecord
    exact ⟨pinned, onRecord, pinned.compare_self_ne_lt⟩
  rcases chosen with ⟨same, _⟩ | ⟨unrecorded, fallsBack⟩
  · -- The entry has the best version, which is no smaller than the one on record.
    obtain ⟨version, valid, atLeast⟩ := BoardVersions.best?_spec found
    exact .inl ⟨version, by rw [same]; exact valid, atLeast pinned onRecord⟩
  · obtain ⟨kept, ⟨boardHas, same⟩ | ⟨boardHasNone, own⟩⟩ := fallback?_eq_some_iff.mp fallsBack
    · cases ofModel : scan.versions.perModel.get? entry.key.model with
      | none =>
        -- The version on record for the model is that of its board.
        refine .inl (unchanged ?_)
        rw [BoardVersions.pinned, ofModel, same]
        rfl
      | some own =>
        refine .inr ⟨?_, ?_, ?_, ?_, firmware, ?_, ?_⟩
        · rw [ofBoard, ← versions, ofModel]
          rfl
        · rw [ofBoard, ← versions]
          exact boardHas
        · rw [ofBoard, ← versions]
          exact same
        · intro other record best' looked
          rw [ofBoard, ← versions, found] at best'
          cases best'
          rw [ofBoard] at looked
          have recorded : scan.records.get? best = some record := by
            rw [records]
            exact (get?_recordsOf (BoardVersions.collect old releases).ascending session _ _ _).mpr
              looked
          rw [recorded] at unrecorded
          exact unrecorded
        · rw [ofBoard]
          exact kept
        · exact mem_firmware_assemble.mpr ⟨scan, member, ofBoard, named, entry.version, approved⟩
    · -- The entry has the version on record for the model.
      refine .inl (unchanged ?_)
      rw [BoardVersions.pinned, own]
      rfl

/-- A reader of an archive in a run that was not told to stop. -/
def archiveSession : Session Unit :=
  ⟨ArchiveReader.new .objectStore "gs://archive" ⟨"/scratch"⟩, Run.start ()⟩

/-- A manifest with a version for a board and a greater one for one of its models. -/
def boardAndModel : Manifest where
  cros := [.of "nami" "" "R77-12371.52.22", .of "nami" "sona" "R80-12739.0.0"]
  firmware := [.of "nami" "sona" "Google_Nami.10775.108.0"]

/-- An archive that has firmware of that model at the version of the board only. -/
def boardRecord : Shelf where
  objects := [("gs://archive/nami-release/R77-12371.52.22/metadata.json",
    Shelf.record "nami" "sona" "Google_Nami.8438.184.0")]

/-- The manifest that comes of it: the model has the version of its board. -/
def boardKept : Manifest where
  cros := [.of "nami" "sona" "R77-12371.52.22"]
  firmware := [.of "nami" "sona" "Google_Nami.10775.108.0"]

theorem reconcile_boardAndModel :
    ((reconcile boardAndModel []).perform boardRecord.host archiveSession).1 =
      .ok { manifest := boardKept } :=
  eq_ok_of_toOption (by decide +kernel)

theorem reconcile_never_regresses_boardAndModel :
    ((reconcile boardAndModel []).perform boardRecord.host archiveSession).1 =
        .ok { manifest := boardKept } ∧
      .of "nami" "sona" "R77-12371.52.22" ∈ boardKept.cros ∧
      OsVersion.parse? ((versionsOf boardAndModel [] "nami").pinned "sona") =
        some ⟨80, 12739, 0, 0⟩ ∧
      ((∃ version, OsVersion.parse? "R77-12371.52.22" = some version ∧
          compare version ⟨80, 12739, 0, 0⟩ ≠ .lt) ∨
        FallsBack boardAndModel [] (survey boardRecord.host boardAndModel [] archiveSession)
          { manifest := boardKept } (.of "nami" "sona" "R77-12371.52.22")) := by
  have present : .of "nami" "sona" "R77-12371.52.22" ∈ boardKept.cros := List.mem_cons_self
  have onRecord : OsVersion.parse? ((versionsOf boardAndModel [] "nami").pinned "sona") =
      some ⟨80, 12739, 0, 0⟩ := by decide +kernel
  exact ⟨reconcile_boardAndModel, present, onRecord, reconcile_never_regresses boardRecord.host
    boardAndModel [] archiveSession _ reconcile_boardAndModel _ present _ onRecord⟩

/-- The version on record for the model is greater than the one that it is given,
so the exception is taken. -/
theorem reconcile_regresses_to_board :
    ∃ outcome entry version pinned,
      ((reconcile boardAndModel []).perform boardRecord.host archiveSession).1 = .ok outcome ∧
      entry ∈ outcome.manifest.cros ∧
      OsVersion.parse?
        ((versionsOf boardAndModel [] entry.key.buildTarget).pinned entry.key.model) = some pinned ∧
      OsVersion.parse? entry.version = some version ∧ compare version pinned = .lt :=
  ⟨{ manifest := boardKept }, .of "nami" "sona" "R77-12371.52.22", ⟨77, 12371, 52, 22⟩,
    ⟨80, 12739, 0, 0⟩, reconcile_boardAndModel, List.mem_cons_self, by decide +kernel,
    by decide +kernel, by decide⟩

end Reconcile

end StableFleet
