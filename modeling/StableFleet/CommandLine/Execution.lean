import StableFleet.CommandLine.Command
import StableFleet.Config.Load
import StableFleet.Device.Document
import StableFleet.Dimensions.Document
import StableFleet.Dimensions.SchedulingUnit
import StableFleet.Flows.Inspection
import StableFleet.Flows.Update
import StableFleet.Json.Complaint
import StableFleet.Json.Layout
import StableFleet.Machine.Service
import StableFleet.Report.Document

/-!
# Carrying out commands

A command works on a machine and leaves what it prints and an exit code. Results
go to the standard output, and summaries and failures to the standard error
output. Anomalies are printed as a report before the failure that counts them.
-/

namespace StableFleet.CommandLine

open Json (Complaint Value)

/-- The name of the program. -/
def programName : String := "labfleet"

/-- The version of the program. -/
def programVersion : String := "0.12.0"

/-- What a command prints. -/
structure Printed where
  stdout : Bytes := []
  stderr : String := ""
  deriving Repr, DecidableEq

/-- A failure of a command: what failed and why, from the outside to the inside,
and what was printed before. -/
structure Failure where
  chain : List String
  stdout : Bytes := []
  deriving Repr, DecidableEq

/-- A command that is being carried out. -/
abbrev Execution := ExceptT Failure Machine

/-- A value on lines of its own. -/
def printValue (value : Value) : Bytes := value.writeSpaced ++ [Json.ascii '\n']

/-- A line of text. -/
def printLine (line : String) : Bytes := Bytes.ofText (line ++ "\n")

/-- The failure of a command whose work failed. -/
def Failure.ofError (error : Error) : Failure where
  chain := error.chain
  stdout := match error with
    | .anomalies _ report => printValue report.toValue
    | _ => []

/-- The same failure seen from further outside. -/
def Failure.within (failure : Failure) (context : String) : Failure :=
  { failure with chain := context :: failure.chain }

namespace Execution

/-- Work whose failures are failures of the command. -/
def work {α : Type} (work : Work α) : Execution α :=
  ExceptT.mk do return (← work.run).mapError Failure.ofError

/-- A flow whose failures are failures of the command. -/
def flow {α : Type} (flow : Attempt α) : Execution α :=
  work (ExceptT.mk (Service.onMachine flow.run))

/-- A result whose failure is a failure of the command. -/
def ofExcept {α : Type} (result : Except Error α) : Execution α :=
  ExceptT.mk (pure (result.mapError Failure.ofError))

/-- A result whose failure is seen from further outside. -/
def ofExceptWithin {α : Type} (context : String) (result : Except Error α) : Execution α :=
  ExceptT.mk (pure (result.mapError fun error => (Failure.ofError error).within context))

/-- Reads a file. -/
def readFile (path : Path) : Execution Bytes :=
  ExceptT.mk do
    return (← Machine.call (.readFile path)).mapError fun reason =>
      { chain := ["cannot read " ++ path.text, reason] }

end Execution

/-- A configuration with settings replaced. -/
def Overrides.apply (overrides : Overrides) (config : Config) : Config :=
  { config with
    archiveRoot := overrides.archiveRoot.getD config.archiveRoot
    manifestRepo := overrides.manifestRepo.or config.manifestRepo
    manifestBranch := overrides.manifestBranch.getD config.manifestBranch
    manifestPath := overrides.manifestPath.getD config.manifestPath }

/-- A manifest file, or the repository if none is given. -/
def sourceOf (file : Option Path) (revision : Option String) : ManifestSource :=
  match file with
  | some path => .file path
  | none => .repository revision

/-- The summary of an update. -/
def summary (outcome : UpdateOutcome) : String :=
  toString outcome.changes.length ++ " OS version(s) changed, " ++
    toString outcome.reconciliation.novel.length ++ " novel model(s) skipped, " ++
    toString outcome.reconciliation.invalid.length ++ " model(s) without a valid version" ++
    (if outcome.proposed then "" else " (not proposed)")

/-- Updates a manifest. -/
def executeUpdate (options : UpdateOptions) (loaded : Config) : Execution Printed := do
  let config := options.overrides.apply loaded
  Execution.ofExcept config.validate
  let feed ← Execution.ofExcept <|
    Config.resolve options.releaseFeed config.releaseFeed "release_feed"
  let lab : Lab := { config := config }
  let outcome ← Execution.flow <|
    lab.update (sourceOf options.manifest none) feed options.dryRun options.output
  return {
    stdout := if options.dryRun then outcome.encoded else []
    stderr := summary outcome ++ "\n" }

/-- What is printed of a manifest with which nothing is wrong. -/
def acceptance : String := "File appears to be a valid stable version config file."

/-- Checks a manifest. -/
def executeValidate (options : ValidateOptions) (loaded : Config) : Execution Printed := do
  let applied := options.overrides.apply loaded
  let config := if options.allowsOsModels then { applied with strictOsModels := false } else applied
  Execution.ofExcept config.validate
  let lab : Lab := { config := config }
  let _ ← Execution.flow <|
    lab.validate (sourceOf options.path options.revision) (!options.ignoresAllowLists)
  return { stdout := printLine acceptance }

/-- Shows a manifest. -/
def executeDump (options : DumpOptions) (loaded : Config) : Execution Printed := do
  let lab : Lab := { config := options.overrides.apply loaded }
  return { stdout := ← Execution.flow (lab.dump (sourceOf options.manifest none) options.model) }

/-- Finds a bundle. -/
def executeLocate (options : LocateOptions) (loaded : Config) : Execution Printed := do
  let config := options.overrides.apply loaded
  Execution.ofExcept config.validate
  let lab : Lab := { config := config }
  return { stdout := printLine (← Execution.flow (lab.locate options.query)) }

/-- The record that the dimensions in a file tell of. -/
def revertFile [Complaint] (path : Path) : Execution Printed := do
  let bytes ← Execution.readFile path
  match (Value.parse? bytes).map Dimensions.codec.shape with
  | some (.ok dimensions) =>
    return { stdout := printValue (DeviceRecord.ofDimensions dimensions).toValue }
  | _ =>
    throw { chain := [path.text ++ " is not a dimension map", Complaint.about "dimensions" bytes] }

/-- The dimensions of the devices whose records are in some files. -/
def projectFiles [Complaint] : List Path → Execution (List Dimensions)
  | [] => return []
  | path :: paths => do
    let bytes ← Execution.readFile path
    let record ← Execution.ofExceptWithin ("in " ++ path.text) (DeviceRecord.parse bytes)
    return record.project :: (← projectFiles paths)

/-- The dimensions of a group of devices, or of the only device. -/
def groupDimensions [Complaint] (group : Option Path) (children : List Dimensions) :
    Execution Dimensions :=
  match group with
  | some path => do
    let bytes ← Execution.readFile path
    let group ← Execution.ofExceptWithin ("in " ++ path.text) (SchedulingUnit.parse bytes)
    return group.dimensions children
  | none =>
    match children with
    | [only] => return only
    | _ => throw {
        chain := ["expected exactly one device record without --unit, got " ++
          toString children.length] }

/-- Shows dimensions, or makes a record of them. -/
def executeDimensions [Complaint] (options : DimensionsOptions) : Execution Printed :=
  match options.reverted with
  | some path => revertFile path
  | none => do
    let children ← projectFiles options.records
    let dimensions ← groupDimensions options.schedulingUnit children
    return { stdout := printValue dimensions.toValue }

/-- Carries out a command. -/
def execute (environment : Environment) (invocation : Invocation) : Execution Printed := do
  let load := Execution.work (Config.load environment invocation.configFile)
  match invocation.command with
  | .update options => executeUpdate options (← load)
  | .validate options => executeValidate options (← load)
  | .dump options => executeDump options (← load)
  | .dimensions options => executeDimensions options
  | .locateFirmware options => executeLocate options (← load)

/-- What the program leaves behind. -/
structure Exit where
  code : Nat
  stdout : Bytes := []
  stderr : String := ""
  deriving Repr, DecidableEq

/-- The exit of a command line that misuses the program. -/
def misuseCode : Nat := 2

/-- How the program is used. -/
def helpText : String :=
  "Usage: " ++ programName ++ " [OPTIONS] COMMAND\n\n" ++
    "Commands:\n" ++
    "  update           Update the manifest from the release feed\n" ++
    "  validate         Check a manifest file or the manifest of the repository\n" ++
    "  dump             Print the canonical form of the current manifest\n" ++
    "  dimensions       Print the dimensions of a device or a scheduling unit\n" ++
    "  locate-firmware  Find the archive path of a firmware bundle\n\n" ++
    "Options:\n" ++
    "  --log-level LEVEL   Accepted for all commands\n" ++
    "  --config FILE       Read the configuration from this file\n" ++
    "  --always-exit-zero  Exit with status 0 even when the command fails\n"

/-- The exit of a command line that is not carried out. -/
def Stop.exit : Stop → Exit
  | .help => { code := 0, stdout := Bytes.ofText helpText }
  | .version => { code := 0, stdout := printLine (programName ++ " " ++ programVersion) }
  | .misuse cause => { code := misuseCode, stderr := "error: " ++ cause.message ++ "\n" }

/-- The exit of a command. -/
def Invocation.exit (invocation : Invocation) : Except Failure Printed → Exit
  | .ok printed => { code := 0, stdout := printed.stdout, stderr := printed.stderr }
  | .error failure =>
    { code := if invocation.alwaysExitZero then 0 else 1
      stdout := failure.stdout
      stderr := programName ++ ": " ++ ": ".intercalate failure.chain ++ "\n" }

/-- Runs the program on a command line. -/
def runProgram (environment : Environment) (words : List String) : Machine Exit :=
  match Invocation.read words environment.configFile with
  | .error stop => return stop.exit
  | .ok invocation => do return invocation.exit (← (execute environment invocation).run)

end StableFleet.CommandLine
