import StableFleet.Error
import StableFleet.Text.Blank
import StableFleet.Text.Quoted
import StableFleet.TextSet
import StableFleet.Url.Basic

/-!
# Configuration

Where the archive, the feed and the manifest are, and which anomalies are known
and let pass. A configuration is checked in order: first the archive root, then
the lists of devices that are let pass, of which each entry names a board and a
model.
-/

namespace StableFleet

/-- Anomalies that are let pass. -/
structure AllowLists where
  /-- Build targets that may lack an archive record. -/
  missingBoards : TextSet := .empty
  /-- Devices whose firmware need not be found. -/
  failedLookups : TextSet := .empty
  /-- Devices whose firmware may differ. -/
  mismatches : TextSet := .empty
  deriving Repr, DecidableEq, Inhabited

namespace AllowLists

/-- Whether nothing is let pass. -/
def isEmpty (allowed : AllowLists) : Bool :=
  allowed.missingBoards.isEmpty && allowed.failedLookups.isEmpty && allowed.mismatches.isEmpty

/-- Whether a device of either list of devices is written as it should be: a
board and a model on both sides of the only semicolon. -/
def isDevice (entry : String) : Bool :=
  match Text.cutAt? ';' entry.toList with
  | some (board, model) => !board.isEmpty && !model.isEmpty && !model.contains ';'
  | none => false

end AllowLists

/-- The report without the anomalies that are let pass. -/
def Report.without (report : Report) (allowed : AllowLists) : Report where
  nonLowercase := report.nonLowercase
  missingBoards := report.missingBoards.filter fun board => !allowed.missingBoards.contains board
  failedLookups := report.failedLookups.filter fun device =>
    !allowed.failedLookups.contains device.allowKey
  mismatches := report.mismatches.filter fun mismatch =>
    !allowed.mismatches.contains mismatch.device.allowKey

/-- Leaving out what is let pass adds no anomaly. -/
theorem Report.count_without_le (report : Report) (allowed : AllowLists) :
    (report.without allowed).count ≤ report.count := by
  have missing := List.length_filter_le
    (fun board => !allowed.missingBoards.contains board) report.missingBoards
  have failed := List.length_filter_le
    (fun device => !allowed.failedLookups.contains device.allowKey) report.failedLookups
  have different := List.length_filter_le
    (fun mismatch => !allowed.mismatches.contains mismatch.device.allowKey) report.mismatches
  simp only [Report.count, Report.without]
  omega

/-- What the flows need to know of their surroundings. -/
structure Config where
  archiveRoot : String := "gs://chromeos-image-archive"
  releaseFeed : Option String := none
  manifestRepo : Option String := none
  manifestBranch : String := "main"
  manifestPath : String := "lab_platform/stable_version_data/stable_versions.cfg"
  pushRef : String := "refs/for/main"
  /-- Whether operating-system entries may not name a model. -/
  strictOsModels : Bool := true
  allowLists : AllowLists := {}
  deriving Repr, DecidableEq, Inhabited

namespace Config

/-- A way in which a configuration cannot be used. -/
inductive Fault
  | emptyRoot
  | badRoot (root reason : String)
  | badDevice (list entry : String)
  deriving Repr, DecidableEq

/-- The failure that reports a fault. -/
def Fault.error : Fault → Error
  | emptyRoot => .config "archive_root must not be empty" none
  | badRoot root reason =>
    .config ("invalid archive_root " ++ Text.Quoted.quote root ++ ": " ++ reason)
      (some "use gs://bucket, https://host/path or a local directory")
  | badDevice list entry =>
    .config ("malformed allow_lists." ++ list ++ " entry " ++ Text.Quoted.quote entry)
      (some "entries must look like \"board;model\"")

/-- What is wrong with an archive root, if anything is. -/
def rootFault? (root : String) : Option Fault :=
  if Text.Blank.allBlank root then some .emptyRoot
  else if (Text.cutAtRun? "://".toList root.toList).isSome then
    match Url.parse root with
    | .ok _ => none
    | .error fault => some (.badRoot root fault.message)
  else none

/-- The first entry of a list of devices that is not written as it should be. -/
def devicesFault? (list : String) (entries : TextSet) : Option Fault :=
  (entries.toList.find? fun entry => !AllowLists.isDevice entry).map (.badDevice list)

/-- The first thing that is wrong with a configuration. -/
def fault? (config : Config) : Option Fault :=
  (rootFault? config.archiveRoot).or <|
    (devicesFault? "failed_to_lookup" config.allowLists.failedLookups).or <|
      devicesFault? "invalid_versions" config.allowLists.mismatches

/-- A configuration that can be used, or the failure that reports the first
thing that is wrong with it. -/
def validate (config : Config) : Except Error Unit :=
  match config.fault? with
  | none => .ok ()
  | some fault => .error fault.error

/-- A setting that is given, or else the one that is configured. -/
def resolve (given configured : Option String) (name : String) : Except Error String :=
  match given.or configured with
  | some setting => .ok setting
  | none =>
    .error <| .config ("no " ++ name ++ " configured") <| some <|
      "pass --" ++ String.ofList (name.toList.map fun char => if char = '_' then '-' else char) ++
        " or set " ++ name ++ " in the config file"

end Config

end StableFleet
