import StableFleet.Json.Layout
import StableFleet.Report

/-!
# Anomaly reports as documents

A report is written as an object with its four lists, each in order of
discovery, empty ones included.
-/

namespace StableFleet

open Json (Value)

/-- A device as a value. -/
def BoardModel.toValue (device : BoardModel) : Value :=
  .ofMembers [("build_target", .ofText device.buildTarget), ("model", .ofText device.model)]

/-- Firmware that differs as a value. -/
def VersionMismatch.toValue (mismatch : VersionMismatch) : Value :=
  .ofMembers [
    ("build_target", .ofText mismatch.device.buildTarget), ("model", .ofText mismatch.device.model),
    ("wanted", .ofText mismatch.wanted), ("got", .ofText mismatch.got)]

/-- A report as a value. -/
def Report.toValue (report : Report) : Value :=
  .ofMembers [
    ("non_lowercase_entries", .ofTexts report.nonLowercase),
    ("missing_boards", .ofTexts report.missingBoards),
    ("failed_to_lookup", .array (report.failedLookups.map BoardModel.toValue)),
    ("invalid_versions", .array (report.mismatches.map VersionMismatch.toValue))]

end StableFleet
