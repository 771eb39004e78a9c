import StableFleet.Report

/-!
# Failures

Every operation that can fail says so with one of these failures, each with what
an operator needs in order to act on it. The wording of all of them is in one
place.
-/

namespace StableFleet

/-- A failure of an operation. -/
inductive Error
  /-- A version does not have the form it should have. -/
  | invalidFormat (message : String)
  /-- Bytes are not the document they should be. -/
  | decode (message : String)
  /-- A manifest breaks a rule of its structure. -/
  | schemaViolation (message : String)
  /-- A name has a capital letter. -/
  | nonLowercase (entry : String)
  /-- The archive record of a build could not be had. -/
  | archiveUnavailable (buildTarget version message : String)
  /-- A board has no archive record. -/
  | missingBoard (buildTarget : String)
  /-- An archive record does not name a model. -/
  | failedToLookup (buildTarget model : String)
  /-- The archive has other firmware than the manifest. -/
  | invalidVersion (buildTarget model wanted got : String)
  /-- No operating-system version of a model is valid. -/
  | noValidVersion (model : String)
  /-- No firmware bundle exists; the first place looked at is named. -/
  | notFound (path : String)
  /-- A manifest has anomalies. -/
  | anomalies (count : Nat) (report : Report)
  /-- The operation was told to stop. -/
  | cancelled
  /-- The configuration cannot be used; a hint may say what to do. -/
  | config (message : String) (hint : Option String)
  /-- A command failed. -/
  | command (line stderr : String)
  /-- A version-control command failed. -/
  | gitCommand (line url stderr : String)
  /-- A request over a network failed. -/
  | network (address message : String)
  /-- A file could not be read or written. -/
  | file (message : String)
  /-- A document could not be read. -/
  | json (message : String)
  /-- A configuration file could not be read. -/
  | yaml (message : String)
  /-- A location is no valid address. -/
  | url (message : String)
  deriving Repr, DecidableEq, Inhabited

namespace Error

/-- The wording of a failure. -/
def message : Error → String
  | invalidFormat text => text
  | decode text => text
  | schemaViolation text => text
  | nonLowercase entry => "File has non-lowercase entry: " ++ entry
  | archiveUnavailable buildTarget version reason =>
    "archive unavailable for " ++ buildTarget ++ " " ++ version ++ ": " ++ reason
  | missingBoard buildTarget => "missing board: " ++ buildTarget
  | failedToLookup buildTarget model =>
    "failed to lookup firmware for " ++ buildTarget ++ ";" ++ model
  | invalidVersion buildTarget model wanted got =>
    "invalid firmware version for " ++ buildTarget ++ ";" ++ model ++ ": wanted " ++ wanted ++
      ", got " ++ got
  | noValidVersion model => "no valid OS version for model " ++ model
  | notFound path => "firmware bundle not found (first candidate: " ++ path ++ ")"
  | anomalies count _ => "validation found " ++ toString count ++ " anomalies"
  | cancelled => "operation cancelled"
  | config text none => "Configuration error: " ++ text
  | config text (some hint) => "Configuration error: " ++ text ++ "\n  hint: " ++ hint
  | command line stderr => "Command failed: " ++ line ++ " - " ++ stderr
  | gitCommand line address stderr =>
    "Git command failed for " ++ address ++ ": " ++ line ++ " - " ++ stderr
  | network address reason => "Network operation error: " ++ address ++ " - " ++ reason
  | file reason => "I/O error: " ++ reason
  | json reason => "JSON error: " ++ reason
  | yaml reason => "YAML parsing error: " ++ reason
  | url reason => "URL parsing error: " ++ reason

/-- The failure and what brought it about, each in its own words. -/
def chain : Error → List String
  | file reason => [(file reason).message, reason]
  | json reason => [(json reason).message, reason]
  | yaml reason => [(yaml reason).message, reason]
  | url reason => [(url reason).message, reason]
  | error => [error.message]

/-- Whether a failure means that the operation was told to stop. -/
def isCancelled : Error → Bool
  | cancelled => true
  | _ => false

end Error

/-- The failures of a report, one for each anomaly and in its order. -/
def Report.errors (report : Report) : List Error :=
  report.nonLowercase.map Error.nonLowercase ++
    report.missingBoards.map Error.missingBoard ++
    report.failedLookups.map (fun device => Error.failedToLookup device.buildTarget device.model) ++
    report.mismatches.map fun mismatch =>
      Error.invalidVersion mismatch.device.buildTarget mismatch.device.model mismatch.wanted
        mismatch.got

/-- There is one failure for each anomaly. -/
theorem Report.length_errors (report : Report) : report.errors.length = report.count := by
  simp [Report.errors, Report.count, Nat.add_assoc]

end StableFleet
