/-!
# Anomaly reports

A report on a manifest lists, in order of discovery, the names that are not in
small letters, the boards without an archive record, the devices whose firmware
could not be looked up, and the firmware that differs from the archive's.
-/

namespace StableFleet

/-- A device model of a build target. -/
structure BoardModel where
  buildTarget : String
  model : String
  deriving Repr, DecidableEq, Inhabited

namespace BoardModel

/-- The name by which an allow-list refers to a device. -/
def allowKey (device : BoardModel) : String := device.buildTarget ++ ";" ++ device.model

end BoardModel

/-- Firmware on record that is not the firmware of the archive. -/
structure VersionMismatch where
  device : BoardModel
  /-- What the archive has. -/
  wanted : String
  /-- What the manifest has. -/
  got : String
  deriving Repr, DecidableEq, Inhabited

/-- The anomalies of a manifest. -/
structure Report where
  nonLowercase : List String := []
  missingBoards : List String := []
  failedLookups : List BoardModel := []
  mismatches : List VersionMismatch := []
  deriving Repr, DecidableEq, Inhabited

namespace Report

/-- How many anomalies a report lists. -/
def count (report : Report) : Nat :=
  report.nonLowercase.length + report.missingBoards.length + report.failedLookups.length +
    report.mismatches.length

/-- A report lists nothing exactly when it is the empty report. -/
theorem count_eq_zero_iff (report : Report) : report.count = 0 ↔ report = {} := by
  cases report
  simp [count, and_assoc]

end Report

end StableFleet
