import StableFleet.Text.LetterCase

/-!
# Manifests

A manifest approves versions for devices. It has three sections, each a list of
entries; an entry gives the version of a key, and a key is a build target with
or without a model.
-/

namespace StableFleet

/-- The sections of a manifest. -/
inductive Section
  | cros
  | firmware
  | faft
  deriving Repr, DecidableEq, Inhabited

namespace Section

/-- The sections in the order of a manifest. -/
def all : List Section := [.cros, .firmware, .faft]

/-- The name of a section in a document. -/
def name : Section → String
  | cros => "cros"
  | firmware => "firmware"
  | faft => "faft"

/-- The name of a section in messages about its entries. -/
def label : Section → String
  | cros => "CrOS"
  | firmware => "firmware"
  | faft => "faft"

end Section

/-- What an entry is about. The model is empty for entries about every model of
a board. -/
structure EntryKey where
  buildTarget : String := ""
  model : String := ""
  deriving Repr, DecidableEq, Inhabited

namespace EntryKey

/-- A build target and a model joined by a mark, or the build target alone when
there is no model. -/
def joined (mark : String) (key : EntryKey) : String :=
  if key.model.isEmpty then key.buildTarget else key.buildTarget ++ mark ++ key.model

/-- The name of a key: `board`, or `board:model`. -/
def composite (key : EntryKey) : String := key.joined ":"

end EntryKey

/-- The version approved for a key. -/
structure VersionEntry where
  key : EntryKey := {}
  version : String := ""
  deriving Repr, DecidableEq, Inhabited

/-- An entry for a model of a build target. -/
def VersionEntry.of (buildTarget model version : String) : VersionEntry :=
  ⟨⟨buildTarget, model⟩, version⟩

/-- The approved versions of a lab. -/
structure Manifest where
  cros : List VersionEntry := []
  firmware : List VersionEntry := []
  faft : List VersionEntry := []
  deriving Repr, DecidableEq, Inhabited

namespace Manifest

/-- The entries of a section. -/
def entries (manifest : Manifest) : Section → List VersionEntry
  | .cros => manifest.cros
  | .firmware => manifest.firmware
  | .faft => manifest.faft

/-- The manifest with the entries of one section changed. -/
def modify (manifest : Manifest) (part : Section)
    (change : List VersionEntry → List VersionEntry) : Manifest :=
  match part with
  | .cros => { manifest with cros := change manifest.cros }
  | .firmware => { manifest with firmware := change manifest.firmware }
  | .faft => { manifest with faft := change manifest.faft }

/-- The manifest with every section changed. -/
def mapSections (manifest : Manifest) (change : List VersionEntry → List VersionEntry) : Manifest :=
  ⟨change manifest.cros, change manifest.firmware, change manifest.faft⟩

/-- Every section of a changed manifest is the changed section. -/
@[simp] theorem entries_mapSections (manifest : Manifest)
    (change : List VersionEntry → List VersionEntry) (part : Section) :
    (manifest.mapSections change).entries part = change (manifest.entries part) := by
  cases part <;> rfl

/-- Whether a manifest has no entry. -/
def isEmpty (manifest : Manifest) : Bool :=
  manifest.cros.isEmpty && manifest.firmware.isEmpty && manifest.faft.isEmpty

/-- The entries about one model. -/
def filterModel (manifest : Manifest) (model : String) : Manifest :=
  manifest.mapSections fun entries => entries.filter fun entry => entry.key.model = model

/-- The version of the first entry with a key. -/
def versionFor? (entries : List VersionEntry) (key : EntryKey) : Option String :=
  (entries.find? fun entry => entry.key = key).map (·.version)

/-- The operating-system version on record for exactly this build target and
model. -/
def osFor? (manifest : Manifest) (buildTarget model : String) : Option String :=
  versionFor? manifest.cros ⟨buildTarget, model⟩

/-- The firmware on record for exactly this build target and model. -/
def firmwareFor? (manifest : Manifest) (buildTarget model : String) : Option String :=
  versionFor? manifest.firmware ⟨buildTarget, model⟩

end Manifest

end StableFleet
