import StableFleet.Proofs.Flow.Shelf
import StableFleet.Proofs.Reconcile.Regression
import StableFleet.Proofs.Update.Gate
import StableFleet.Proofs.Validation.Admission
import StableFleet.Proofs.Validation.Progress

/-!
# When a file check accepts what an update has made

An update has its manifest checked against the archive and not as a file. Still,
most of what a file check asks for holds of every manifest that an update gives: it
is written in canonical order, its names are in small letters, no build target is
empty, and operating systems and firmware stand under the same keys.

What an update does not see to is the rest. There may be no entry at all, as when
every download fails; a version that an entry falls back to, or that a record names,
may have no valid form; a record may name a model that is empty; two keys may have
the same name; and the section that no update touches is as it was. A file check
accepts an updated manifest exactly when none of these is the case.
-/

namespace StableFleet

/-- A manifest that has what an update does not see to: some entry, valid versions,
models that are not empty, distinct names, and an admissible section of reported
firmware. -/
structure Manifest.Presentable (manifest : Manifest) : Prop where
  inhabited : manifest.cros ≠ []
  osVersions : ∀ entry ∈ manifest.cros, (OsVersion.parse? entry.version).isSome = true
  models : ∀ entry ∈ manifest.cros, entry.key.model ≠ ""
  names : (manifest.cros.map fun entry => entry.key.composite).Nodup
  firmwareVersions : ∀ entry ∈ manifest.firmware, Version.looksLikeFirmware entry.version = true
  faft : Shallow.SectionAdmissible false .faft manifest.faft

/-- A manifest that has what an update does see to: it is in canonical order, the
sections of operating systems and firmware have the same keys, and these have a
build target and are in small letters. -/
structure Manifest.WellKept (manifest : Manifest) : Prop where
  sorted : manifest.sort = manifest
  keys : (manifest.cros.map (·.key)).Perm (manifest.firmware.map (·.key))
  named : ∀ entry ∈ manifest.cros, entry.key.buildTarget ≠ ""
  lowercase : ∀ entry ∈ manifest.cros ++ manifest.firmware,
    Text.LetterCase.isLowercase entry.key.buildTarget = true ∧
      Text.LetterCase.isLowercase entry.key.model = true

namespace Manifest

/-- With the same keys, something holds of the keys of all operating-system entries
when it holds of those of all firmware entries. -/
theorem WellKept.keys_all {manifest : Manifest} (kept : manifest.WellKept)
    (holds : EntryKey → Prop) :
    (∀ entry ∈ manifest.cros, holds entry.key) ↔ ∀ entry ∈ manifest.firmware, holds entry.key := by
  have os := List.forall_mem_map (f := fun entry : VersionEntry => entry.key) (l := manifest.cros)
    (P := holds)
  have firmware := List.forall_mem_map (f := fun entry : VersionEntry => entry.key)
    (l := manifest.firmware) (P := holds)
  rw [← os, ← firmware]
  constructor
  · intro all key present
    exact all key (kept.keys.mem_iff.mpr present)
  · intro all key present
    exact all key (kept.keys.mem_iff.mp present)

/-- The operating-system section of a well-kept manifest is admissible when its
versions are valid and its names are distinct. -/
theorem WellKept.cros_admissible_iff {manifest : Manifest} (kept : manifest.WellKept) :
    Shallow.SectionAdmissible false .cros manifest.cros ↔
      (∀ entry ∈ manifest.cros, (OsVersion.parse? entry.version).isSome = true) ∧
        (manifest.cros.map fun entry => entry.key.composite).Nodup := by
  constructor
  · rintro ⟨admissible, distinct⟩
    exact ⟨fun entry present => (admissible entry present).version, distinct⟩
  · rintro ⟨versions, distinct⟩
    refine ⟨fun entry present => ?_, distinct⟩
    obtain ⟨buildTarget, model⟩ := kept.lowercase entry (List.mem_append_left _ present)
    exact ⟨buildTarget, model, kept.named entry present, rfl, versions entry present⟩

/-- The firmware section of a well-kept manifest is admissible when its models are
not empty, its versions have a valid form and its names are distinct. -/
theorem WellKept.firmware_admissible_iff {manifest : Manifest} (kept : manifest.WellKept) :
    Shallow.SectionAdmissible false .firmware manifest.firmware ↔
      (∀ entry ∈ manifest.firmware, entry.key.model ≠ "") ∧
        (∀ entry ∈ manifest.firmware, Version.looksLikeFirmware entry.version = true) ∧
        (manifest.firmware.map fun entry => entry.key.composite).Nodup := by
  have suits (model : String) :
      Shallow.modelFault? false .firmware model = none ↔ model ≠ "" := by
    simp [Shallow.modelFault?]
  constructor
  · rintro ⟨admissible, distinct⟩
    exact ⟨fun entry present => (suits _).mp (admissible entry present).suited,
      fun entry present => (admissible entry present).version, distinct⟩
  · rintro ⟨models, versions, distinct⟩
    refine ⟨fun entry present => ?_, distinct⟩
    obtain ⟨buildTarget, model⟩ := kept.lowercase entry (List.mem_append_right _ present)
    have named := (kept.keys_all fun key => key.buildTarget ≠ "").mp kept.named entry present
    exact ⟨buildTarget, model, named, (suits _).mpr (models entry present), versions entry present⟩

/-- The names of the two sections of a well-kept manifest are the same. -/
theorem WellKept.names_perm {manifest : Manifest} (kept : manifest.WellKept) :
    (manifest.cros.map fun entry => entry.key.composite).Perm
      (manifest.firmware.map fun entry => entry.key.composite) := by
  have composites := kept.keys.map EntryKey.composite
  rw [List.map_map, List.map_map] at composites
  exact composites

/-- A file check accepts the bytes of a well-kept manifest exactly when the manifest
is presentable. -/
theorem WellKept.accepted_iff {manifest : Manifest} (kept : manifest.WellKept) :
    Shallow.inspectBuffer false manifest.encode = .ok manifest ↔ manifest.Presentable := by
  have models := kept.keys_all fun key => key.model ≠ ""
  have names := kept.names_perm.nodup_iff
  rw [Shallow.inspectBuffer_encode_iff false kept.sorted]
  constructor
  · rintro ⟨inhabited, _, sections⟩
    obtain ⟨osVersions, distinct⟩ := kept.cros_admissible_iff.mp (sections .cros)
    obtain ⟨named, versions, _⟩ := kept.firmware_admissible_iff.mp (sections .firmware)
    exact ⟨inhabited, osVersions, models.mpr named, distinct, versions, sections .faft⟩
  · rintro ⟨inhabited, osVersions, named, distinct, versions, faft⟩
    refine ⟨inhabited, ?_, fun part => ?_⟩
    · intro empty
      have same := kept.keys.length_eq
      rw [empty, List.map_nil, List.length_map] at same
      exact inhabited (List.eq_nil_of_length_eq_zero same)
    · cases part with
      | cros => exact kept.cros_admissible_iff.mpr ⟨osVersions, distinct⟩
      | firmware =>
        exact kept.firmware_admissible_iff.mpr ⟨models.mp named, versions, names.mp distinct⟩
      | faft => exact faft

end Manifest

/-- A reconciled manifest in which a check against the archive finds no capital
letter is well kept. -/
theorem Reconcile.wellKept_of_validate {σ : Type} {host : Host σ} {old : Manifest}
    {releases : List BoardRelease} {before middle after : Session σ} {outcome : Reconciliation}
    {report : Report}
    (reconciled : (reconcile old releases).perform host before = (.ok outcome, middle))
    (validated : (Deep.validate outcome.manifest).perform host middle = (.ok report, after))
    (clean : report.nonLowercase = []) : outcome.manifest.WellKept := by
  obtain ⟨_, rfl⟩ := (reconcile_ok_iff host old releases before outcome).mp (by rw [reconciled])
  constructor
  case sorted => exact Manifest.sort_sort _
  case keys => exact keys_assemble old _
  case named =>
    intro entry present
    obtain ⟨scan, member, ofBoard, _⟩ := mem_cros_assemble.mp present
    rw [ofBoard]
    exact (versions_of_scan member).2.1
  case lowercase => exact Deep.lowercase_of_validate validated clean

namespace Lab

/-- The manifest of an update that succeeds is well kept. -/
theorem wellKept_of_assessment {σ : Type} {host : Host σ} {lab : Lab} {source : ManifestSource}
    {feed : String} {run : Run σ} {assessment : Assessment}
    (assessed : (lab.assessment host source feed run).1 = .ok assessment)
    (clean : assessment.report = {}) : assessment.outcome.manifest.WellKept := by
  obtain ⟨_, _, _, _, releases, _, _, report, before, middle, after, _, _, _, _, _, _, _,
    reconciled, validated, filtered⟩ := assessment_grounded assessed
  have noCapitals : report.nonLowercase = [] := by
    have same := congrArg Report.nonLowercase filtered
    rw [clean] at same
    exact same.symm
  exact Reconcile.wellKept_of_validate reconciled validated noCapitals

/-- An update that succeeds gives the canonical bytes of a well-kept manifest. -/
theorem wellKept_of_update {σ : Type} {host : Host σ} {lab : Lab} {source : ManifestSource}
    {feed : String} {dryRun : Bool} {output : Option Path} {run : Run σ} {outcome : UpdateOutcome}
    (succeeded : ((lab.update source feed dryRun output).perform host run).1 = .ok outcome) :
    outcome.encoded = outcome.reconciliation.manifest.encode ∧
      outcome.reconciliation.manifest.WellKept := by
  obtain ⟨assessment, assessed, clean, rfl, _⟩ := update_completes succeeded
  exact ⟨rfl, wellKept_of_assessment assessed clean⟩

/-- A file check accepts what an update has made, and finds in it the manifest that
the update gives, exactly when that manifest is presentable. -/
theorem update_accepted_iff {σ : Type} (host : Host σ) (lab : Lab) (source : ManifestSource)
    (feed : String) (dryRun : Bool) (output : Option Path) (run : Run σ) (outcome : UpdateOutcome)
    (succeeded : ((lab.update source feed dryRun output).perform host run).1 = .ok outcome) :
    Shallow.inspectBuffer false outcome.encoded = .ok outcome.reconciliation.manifest ↔
      outcome.reconciliation.manifest.Presentable := by
  obtain ⟨encoded, kept⟩ := wellKept_of_update succeeded
  rw [encoded]
  exact kept.accepted_iff

end Lab

/-- A manifest with one model of one board. -/
def oneModel : Manifest where
  cros := [.of "nami" "sona" "R77-12371.52.22"]
  firmware := [.of "nami" "sona" "Google_Nami.8438.184.0"]

/-- A lab with an archive and nothing else configured. -/
def archiveLab : Lab where
  config := { archiveRoot := "gs://archive" }

/-- A shelf with that manifest, a feed that lists nothing, and some objects. -/
def oneModelShelf (objects : List (String × Bytes)) : Shelf where
  files := [(⟨"/feed"⟩, Bytes.ofText "\x7b\x7d"), (⟨"/manifest"⟩, oneModel.encode)]
  objects := objects

/-- What an update of that manifest comes to with some objects in the archive. -/
def updateOneModel (objects : List (String × Bytes)) : Except Error UpdateOutcome :=
  ((archiveLab.update (.file ⟨"/manifest"⟩) "/feed" false none).perform (oneModelShelf objects).host
    (Run.start ())).1

/-- The record of the version on record, with some firmware for the model. -/
def recordOfModel (firmware : String) : String × Bytes :=
  ("gs://archive/nami-release/R77-12371.52.22/metadata.json",
    Shelf.record "nami" "sona" firmware)

/-- What is checked of the outcome of an update holds of an outcome that it has. -/
theorem outcome_of_check (result : Except Error UpdateOutcome) (check : UpdateOutcome → Bool)
    (checked : result.toOption.any check = true) :
    ∃ outcome, result = .ok outcome ∧ check outcome = true := by
  cases result with
  | error error => cases checked
  | ok outcome => exact ⟨outcome, rfl, checked⟩

theorem Lab.update_accepted_oneModel :
    ∃ outcome, updateOneModel [recordOfModel "Google_Nami.8438.184.0"] = .ok outcome ∧
      outcome.reconciliation.manifest.Presentable ∧
      Shallow.inspectBuffer false outcome.encoded = .ok outcome.reconciliation.manifest := by
  obtain ⟨outcome, result, checked⟩ := outcome_of_check
    (updateOneModel [recordOfModel "Google_Nami.8438.184.0"])
    (fun outcome => outcome.reconciliation.manifest = oneModel) (by decide +kernel)
  have same : outcome.reconciliation.manifest = oneModel := of_decide_eq_true checked
  have presentable : outcome.reconciliation.manifest.Presentable := by
    rw [same]
    exact ⟨by decide, by decide +kernel, by decide, by decide, by decide +kernel,
      ⟨nofun, List.nodup_nil⟩⟩
  have succeeded := result
  unfold updateOneModel at succeeded
  exact ⟨outcome, result, presentable, (Lab.update_accepted_iff (oneModelShelf _).host archiveLab
    _ _ _ _ _ outcome succeeded).mpr presentable⟩

/-- An update succeeds although a file check rejects what it has made: with no entry
left when every download fails, and with an entry whose firmware is no version when
the record names none. -/
theorem Lab.update_rejected_oneModel :
    (∃ outcome, updateOneModel [] = .ok outcome ∧ outcome.reconciliation.manifest = {} ∧
      Shallow.inspectBuffer false outcome.encoded ≠ .ok outcome.reconciliation.manifest) ∧
    ∃ outcome, updateOneModel [recordOfModel "unknown"] = .ok outcome ∧
      outcome.reconciliation.manifest =
        { oneModel with firmware := [.of "nami" "sona" "unknown"] } ∧
      Shallow.inspectBuffer false outcome.encoded ≠ .ok outcome.reconciliation.manifest := by
  have rejects {objects : List (String × Bytes)} {outcome : UpdateOutcome}
      (result : updateOneModel objects = .ok outcome)
      (unpresentable : ¬ outcome.reconciliation.manifest.Presentable) :
      Shallow.inspectBuffer false outcome.encoded ≠ .ok outcome.reconciliation.manifest := by
    intro accepted
    unfold updateOneModel at result
    obtain ⟨encoded, kept⟩ := Lab.wellKept_of_update result
    rw [encoded] at accepted
    exact unpresentable (kept.accepted_iff.mp accepted)
  constructor
  · obtain ⟨outcome, result, checked⟩ := outcome_of_check (updateOneModel [])
      (fun outcome => outcome.reconciliation.manifest = {}) (by decide +kernel)
    have same : outcome.reconciliation.manifest = {} := of_decide_eq_true checked
    refine ⟨outcome, result, same, rejects result ?_⟩
    rw [same]
    intro presentable
    exact presentable.inhabited rfl
  · obtain ⟨outcome, result, checked⟩ := outcome_of_check (updateOneModel [recordOfModel "unknown"])
      (fun outcome => outcome.reconciliation.manifest =
        { oneModel with firmware := [.of "nami" "sona" "unknown"] }) (by decide +kernel)
    have same : outcome.reconciliation.manifest =
        { oneModel with firmware := [.of "nami" "sona" "unknown"] } := of_decide_eq_true checked
    refine ⟨outcome, result, same, rejects result ?_⟩
    rw [same]
    intro presentable
    have version := presentable.firmwareVersions _ List.mem_cons_self
    exact absurd version (by decide +kernel)

end StableFleet
