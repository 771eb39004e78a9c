import StableFleet.Feed
import StableFleet.Manifest.Basic
import StableFleet.TextSet

/-!
# The versions known of a board

For each build target, the feed may have a version, the manifest may have one for
the whole board, and others for single models. The version a model should run is
the greater of the feed's and the one on record for the model.
-/

namespace StableFleet

/-- The versions known of one build target. A version that is not known is the
empty text. -/
structure BoardVersions where
  released : String := ""
  legacy : String := ""
  perModel : Table String := Table.empty
  deriving DecidableEq

namespace BoardVersions

/-- The versions that a board refers to, in ascending order. -/
def relevant (versions : BoardVersions) : List String :=
  (TextSet.ofList <| (versions.released :: versions.legacy :: versions.perModel.values).filter
    fun version => !version.isEmpty).toList

/-- The version on record for a model: its own, or else the board's. -/
def pinned (versions : BoardVersions) (model : String) : String :=
  (versions.perModel.get? model).getD versions.legacy

/-- The version that a model should run. -/
def best? (versions : BoardVersions) (model : String) : Option String :=
  let old := versions.pinned model
  match OsVersion.parse? versions.released, OsVersion.parse? old with
  | some newVersion, some oldVersion =>
    some (if compare newVersion oldVersion = .lt then old else versions.released)
  | some _, none => some versions.released
  | none, some _ => some old
  | none, none => none

/-- The version that a model should run, or the failure of having none. -/
def best (versions : BoardVersions) (model : String) : Except Error String :=
  match versions.best? model with
  | some version => .ok version
  | none => .error (.noValidVersion model)

/-- Takes note of an operating-system entry of the manifest. -/
def noteEntry (entry : VersionEntry) (versions : BoardVersions) : BoardVersions :=
  if entry.key.model.isEmpty then { versions with legacy := entry.version }
  else { versions with perModel := versions.perModel.insert entry.key.model entry.version }

/-- Takes note of a version of the feed. -/
def noteRelease (release : BoardRelease) (versions : BoardVersions) : BoardVersions :=
  { versions with released := release.version }

/-- The versions of every build target that the manifest or the feed names. -/
def collect (old : Manifest) (releases : List BoardRelease) : Table BoardVersions :=
  let noted := old.cros.foldl (fun boards entry =>
    boards.update entry.key.buildTarget fun known => noteEntry entry (known.getD {})) Table.empty
  releases.foldl (fun boards release =>
    boards.update release.buildTarget fun known => noteRelease release (known.getD {})) noted

end BoardVersions

end StableFleet
