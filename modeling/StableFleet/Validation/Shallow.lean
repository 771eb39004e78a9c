import StableFleet.Json.Canonical
import StableFleet.Manifest.Document
import StableFleet.Version.Check

/-!
# Checking a manifest file by itself

A file is checked without asking an archive: that it holds a manifest at all,
then each section in order, and in a section each entry in order. The first
fault found is the one reported.
-/

namespace StableFleet.Shallow

open Json (Complaint Value)

/-- What is wrong with an entry. -/
inductive EntryFault
  | capitals
  | emptyBuildTarget
  | modelGiven
  | emptyModel
  | duplicate
  | version
  deriving Repr, DecidableEq

/-- What is wrong with a file. -/
inductive Fault
  | empty
  | notText
  | notDocument
  | null
  | notObject
  | misfit
  | noOsEntries
  | noFirmwareSection
  | entry (part : Section) (index : Nat) (entry : VersionEntry) (fault : EntryFault)
  deriving Repr, DecidableEq

/-- The words that name a fault of an entry, for the faults that are named. -/
def EntryFault.reason : EntryFault → String
  | capitals => "capital letter"
  | emptyBuildTarget => "empty buildTarget"
  | modelGiven => "non-empty models are NOT supported in CrOS versions"
  | emptyModel => "empty model"
  | duplicate => "duplicate entry"
  | version => "invalid version"

/-- Where an entry stands. -/
def place (index : Nat) : String := "position (" ++ toString index ++ ")"

/-- The key of an entry in a message. -/
def keyText (key : EntryKey) : String :=
  "buildTarget: (" ++ key.buildTarget ++ ") model:(" ++ key.model ++ ")"

/-- The message about an entry that breaks a rule. The rule is named where the
entry would be expected, and the place of the entry after it. -/
def entryMessage (part : Section) (index : Nat) (entry : VersionEntry) (reason : String) : String :=
  "File has bad " ++ part.label ++ " version entry position (" ++ reason ++ "): (" ++
    toString index ++ ") " ++ keyText entry.key ++ " version: (" ++ entry.version ++ ")"

/-- The failure that reports a fault of some bytes. -/
def Fault.error [Complaint] (bytes : Bytes) : Fault → Error
  | empty => .decode "File unexpectedly has length zero"
  | notText => .decode "File is not valid UTF-8"
  | notDocument => .decode "File is not valid JSON"
  | null => .decode "File is null JSON literal"
  | notObject => .decode "File does not conform to stable_version proto"
  | misfit =>
    .decode ("File does not conform to stable_version proto: " ++
      Complaint.about "value of a manifest" bytes)
  | noOsEntries => .schemaViolation "File has no \"cros\" entries"
  | noFirmwareSection => .schemaViolation "File is missing \"firmware\" key"
  | entry part index offending .capitals =>
    .nonLowercase (part.label ++ " " ++ place index ++ " " ++ keyText offending.key)
  | entry part index offending .version =>
    .invalidFormat (entryMessage part index offending EntryFault.version.reason)
  | entry part index offending fault =>
    .schemaViolation (entryMessage part index offending fault.reason)

/-- Whether a version is one that a section may have. -/
def isVersionOf (part : Section) (version : String) : Bool :=
  match part with
  | .cros => (OsVersion.parse? version).isSome
  | .firmware | .faft => Version.looksLikeFirmware version

/-- The fault of a model that does not suit its section. An operating-system
entry may have a model only where that is allowed; other entries must have
one. -/
def modelFault? (strict : Bool) (part : Section) (model : String) : Option EntryFault :=
  match part with
  | .cros => if strict && !model.isEmpty then some .modelGiven else none
  | .firmware | .faft => if model.isEmpty then some .emptyModel else none

/-- The first fault of an entry that comes after entries with the given names. -/
def entryFault? (strict : Bool) (part : Section) (seen : List String) (entry : VersionEntry) :
    Option EntryFault :=
  if !Text.LetterCase.isLowercase entry.key.buildTarget ||
      !Text.LetterCase.isLowercase entry.key.model then some .capitals
  else if entry.key.buildTarget.isEmpty then some .emptyBuildTarget
  else
    (modelFault? strict part entry.key.model).or <|
      if seen.contains entry.key.composite then some .duplicate
      else if isVersionOf part entry.version then none
      else some .version

/-- The first fault among the entries of a section, from one of them on. -/
def entriesFault? (strict : Bool) (part : Section) (index : Nat) (seen : List String) :
    List VersionEntry → Option Fault
  | [] => none
  | entry :: rest =>
    match entryFault? strict part seen entry with
    | some fault => some (.entry part index entry fault)
    | none => entriesFault? strict part (index + 1) (entry.key.composite :: seen) rest

/-- The first fault of a section. -/
def sectionFault? (strict : Bool) (manifest : Manifest) (part : Section) : Option Fault :=
  entriesFault? strict part 0 [] (manifest.entries part)

/-- The first fault of a manifest, of which it is known whether its document has
a firmware section. -/
def manifestFault? (strict hasFirmware : Bool) (manifest : Manifest) : Option Fault :=
  if manifest.cros.isEmpty then some .noOsEntries
  else if !hasFirmware then some .noFirmwareSection
  else Section.all.findSome? (sectionFault? strict manifest)

/-- The value of a document that some bytes hold. -/
def readDocument (bytes : Bytes) : Except Fault Value :=
  if bytes.isEmpty then .error .empty
  else if (Bytes.text? bytes).isNone then .error .notText
  else match (Value.parse? bytes).bind Value.canonical? with
    | none => .error .notDocument
    | some .null => .error .null
    | some value => if value.isObject then .ok value else .error .notObject

/-- The manifest of a value, if nothing is wrong with it. -/
def readManifest (strict : Bool) (value : Value) : Except Fault Manifest :=
  match Manifest.shape value with
  | .error _ => .error .misfit
  | .ok manifest =>
    match manifestFault? strict (value.member? Section.firmware.name).isSome manifest with
    | some fault => .error fault
    | none => .ok manifest

/-- The manifest that some bytes hold, or the first thing that is wrong with
them. -/
def inspect (strict : Bool) (bytes : Bytes) : Except Fault Manifest := do
  readManifest strict (← readDocument bytes)

/-- The manifest that some bytes hold, or the failure that reports the first
fault. -/
def inspectBuffer [Complaint] (strict : Bool) (bytes : Bytes) : Except Error Manifest :=
  (inspect strict bytes).mapError (Fault.error bytes)

/-- The failure of a file that cannot be read. -/
def unreadable (reason : String) : Error :=
  .decode ("File cannot be read (" ++ reason ++ ")")

end StableFleet.Shallow
