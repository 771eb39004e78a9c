import StableFleet.Json.Complaint
import StableFleet.Json.Reader
import StableFleet.Json.Shape
import StableFleet.Request
import StableFleet.Version.Check

/-!
# The release feed

The feed lists releases of boards on several channels. Of the beta channel, the
greatest valid version of each board counts, whatever the order of the entries.
Boards are named as build targets: with underscores for hyphens.
-/

namespace StableFleet

open Json (Complaint Value Shape)

/-- The latest version of a build target. -/
structure BoardRelease where
  buildTarget : String
  version : String
  deriving Repr, DecidableEq, Inhabited

namespace Feed

/-- An entry of the feed. -/
structure Entry where
  codename : String := ""
  channel : String := ""
  milestone : UInt64 := 0
  version : String := ""
  deriving Repr, DecidableEq

/-- The shape of an entry. -/
def Entry.shape : Shape Entry :=
  Shape.record [
    Shape.field "board"
      (Shape.record [Shape.field "publicCodename" Shape.text fun _ name => name] "")
      fun entry name => { entry with codename := name },
    Shape.field "channel" Shape.text fun entry name => { entry with channel := name },
    Shape.field "milestone" Shape.word64 fun entry number => { entry with milestone := number },
    Shape.field "chromeOsVersion" Shape.text fun entry text => { entry with version := text }] {}

/-- The shape of the feed. -/
def shape : Shape (List Entry) :=
  Shape.record [Shape.field "omahaData" (Shape.list Entry.shape) fun _ entries => entries] []

/-- The build target of a board. -/
def normalizeBoard (name : String) : String :=
  String.ofList (name.toList.map fun char => if char = '-' then '_' else char)

/-- Whether a channel is the beta channel, in letters of any case. -/
def isBeta (channel : String) : Bool :=
  channel.toList.map Char.toLower == "beta".toList

/-- The text of the version that an entry announces. -/
def Entry.versionText (entry : Entry) : String :=
  "R" ++ Text.Decimal.ofWord entry.milestone ++ "-" ++ entry.version

/-- The build target and version of an entry that counts. -/
def Entry.release? (entry : Entry) : Option (String × OsVersion) :=
  let buildTarget := normalizeBoard entry.codename
  if isBeta entry.channel && !buildTarget.isEmpty then
    (OsVersion.parse? entry.versionText).map fun version => (buildTarget, version)
  else none

/-- The greatest version of each build target, once one more release is known. -/
def addRelease (newest : Table OsVersion) (release : String × OsVersion) : Table OsVersion :=
  newest.update release.1 fun known =>
    match known with
    | some version => version.latest release.2
    | none => release.2

/-- The greatest version of each build target among some entries. -/
def newest (entries : List Entry) : Table OsVersion :=
  (entries.filterMap Entry.release?).foldl addRelease Table.empty

/-- The failure of bytes that are no feed. -/
def undecodable (reason : String) : Error :=
  .decode ("cannot decode release feed: " ++ reason)

/-- The latest version of each build target that the bytes of a feed have, in
the order of build targets. -/
def parse [Complaint] (bytes : Bytes) : Except Error (List BoardRelease) :=
  match Value.parse? bytes with
  | none => .error (undecodable (Complaint.about "feed" bytes))
  | some value =>
    match shape value with
    | .error _ => .error (undecodable (Complaint.about "feed" bytes))
    | .ok entries =>
      .ok ((newest entries).toList.map fun release => ⟨release.1, release.2.text⟩)

/-- Whether a location starts with the given text. -/
def startsWith (location start : String) : Bool :=
  (Text.after? start.toList location.toList).isSome

/-- Reads the bytes of the feed at a location: on a network, in an object store
or in a file. -/
def fetch (location : String) : Attempt Bytes := do
  Attempt.checkpoint
  if startsWith location "http://" || startsWith location "https://" then
    Attempt.ask (Flow.ask (.readAddress location))
  else if startsWith location "gs://" then
    Attempt.ask (Flow.ask (.readObject location))
  else
    let path ← Attempt.ofExcept (localPath location)
    Attempt.readFile path

end Feed

end StableFleet
