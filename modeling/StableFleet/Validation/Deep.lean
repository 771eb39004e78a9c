import StableFleet.Archive.Reader
import StableFleet.Manifest.Basic
import StableFleet.Text.LetterCase

/-!
# Checking a manifest against an archive

Every operating-system entry must have a record in the archive, and every
firmware entry must have the firmware that the record of its operating system
names. What is amiss is put into a report; only being told to stop is a failure.
Reported firmware is not looked at.
-/

namespace StableFleet.Deep

/-- What is known after some entries: the version that was found for each device,
and the report. -/
structure Progress where
  found : Table String := Table.empty
  report : Report := {}
  deriving DecidableEq

/-- The name under which the version of a device is found. -/
def deviceName (key : EntryKey) : String := key.joined ";"

/-- The name of an entry that has a capital letter, the build target before the
model. -/
def offendingName? (key : EntryKey) : Option String :=
  if !Text.LetterCase.isLowercase key.buildTarget then some key.buildTarget
  else if !Text.LetterCase.isLowercase key.model then some key.model
  else none

/-- Notes a name with a capital letter. -/
def Progress.noteCapitals (progress : Progress) (name : String) : Progress :=
  { progress with report :=
    { progress.report with nonLowercase := progress.report.nonLowercase ++ [name] } }

/-- Notes a board without a record. -/
def Progress.noteMissing (progress : Progress) (buildTarget : String) : Progress :=
  { progress with report :=
    { progress.report with missingBoards := progress.report.missingBoards ++ [buildTarget] } }

/-- Notes the version that was found for a device. -/
def Progress.noteFound (progress : Progress) (key : EntryKey) (version : String) : Progress :=
  { progress with found := progress.found.insert (deviceName key) version }

/-- Notes a device whose firmware could not be looked up. -/
def Progress.noteFailed (progress : Progress) (device : BoardModel) : Progress :=
  { progress with report :=
    { progress.report with failedLookups := progress.report.failedLookups ++ [device] } }

/-- Notes firmware that is not the archive's. -/
def Progress.noteMismatch (progress : Progress) (mismatch : VersionMismatch) : Progress :=
  { progress with report :=
    { progress.report with mismatches := progress.report.mismatches ++ [mismatch] } }

/-- Checks an operating-system entry. -/
def checkOs (progress : Progress) (entry : VersionEntry) : Reading Progress :=
  match offendingName? entry.key with
  | some name => return progress.noteCapitals name
  | none => do
    match ← ArchiveReader.unlessStopped
        (ArchiveReader.firmwareVersions entry.key.buildTarget entry.version) with
    | .ok _ => return progress.noteFound entry.key entry.version
    | .error _ => return progress.noteMissing entry.key.buildTarget

/-- Checks a firmware entry. -/
def checkFirmware (progress : Progress) (entry : VersionEntry) : Reading Progress :=
  let device : BoardModel := ⟨entry.key.buildTarget, entry.key.model⟩
  if (offendingName? entry.key).isSome then return progress.noteCapitals device.allowKey
  else match progress.found.get? (deviceName entry.key) with
    | none => return progress.noteFailed device
    | some version => do
      match ← ArchiveReader.unlessStopped
          (ArchiveReader.firmwareVersion device.buildTarget device.model version) with
      | .error _ => return progress.noteFailed device
      | .ok firmware =>
        if firmware = entry.version then return progress
        else return progress.noteMismatch ⟨device, firmware, entry.version⟩

/-- Checks entries one after another. -/
def checkAll (check : Progress → VersionEntry → Reading Progress) :
    Progress → List VersionEntry → Reading Progress
  | progress, [] => return progress
  | progress, entry :: rest => do checkAll check (← check progress entry) rest

/-- The report on a manifest. -/
def validate (manifest : Manifest) : Reading Report := do
  let progress ← checkAll checkOs {} manifest.cros
  return (← checkAll checkFirmware progress manifest.firmware).report

end StableFleet.Deep
