import StableFleet.Proofs.Reconcile.References

/-!
# Where each entry comes from

What a reconciliation decides about a device is told by what goes into it: the versions
that the manifest and the feed have for the build target, the records that the lookups
found, and the firmware on record. No table that the reconciliation builds on its way is
needed to say it.

A device that some record names has its best version with the firmware of the record at
that version, or it keeps the firmware on record. It is invalid when it has no best version,
and novel when it has one and there is firmware for it nowhere.
-/

namespace StableFleet

namespace Reconcile

section Origin

variable (old : Manifest) (releases : List BoardRelease) (looked : List Lookup)
  (device : BoardModel) (version firmware : String)

/-- Some record that was found for the build target of a device names its model. -/
def Seen : Prop :=
  ∃ version record, ⟨device.buildTarget, version, .ok record⟩ ∈ looked ∧
    record.contains device.model = true

/-- A device has its best version, with the firmware that the record of that version has
for it. -/
structure FromRecord : Prop where
  best : (versionsOf old releases device.buildTarget).best? device.model = some version
  found : ∃ record, ⟨device.buildTarget, version, .ok record⟩ ∈ looked ∧
    record.get? device.model = some firmware

/-- The record of the best version of a device was not found or does not name it. The
device has the firmware of its first entry in the manifest, with the version of the board
or, if the board has none, its own. -/
structure FromManifest : Prop where
  unrecorded : ∃ best, (versionsOf old releases device.buildTarget).best? device.model =
    some best ∧ ∀ record, ⟨device.buildTarget, best, .ok record⟩ ∈ looked →
      record.get? device.model = none
  firmware : old.firmwareFor? device.buildTarget device.model = some firmware
  version : ((versionsOf old releases device.buildTarget).legacy ≠ "" ∧
      version = (versionsOf old releases device.buildTarget).legacy) ∨
    ((versionsOf old releases device.buildTarget).legacy = "" ∧
      (versionsOf old releases device.buildTarget).perModel.get? device.model = some version)

end Origin

/-- What the outcome of a reconciliation has, told by what goes into it. -/
structure Origins (old : Manifest) (releases : List BoardRelease) (looked : List Lookup)
    (outcome : Reconciliation) : Prop where
  lookups : LooksUpReferred old releases looked
  versions : ∀ buildTarget, Collected old releases buildTarget
    (versionsOf old releases buildTarget)
  emitted : ∀ device version firmware,
    (⟨keyOf device, version⟩ ∈ outcome.manifest.cros ∧
        ⟨keyOf device, firmware⟩ ∈ outcome.manifest.firmware) ↔
      Seen looked device ∧ (FromRecord old releases looked device version firmware ∨
        FromManifest old releases looked device version firmware)
  invalid : ∀ device, device ∈ outcome.invalid ↔
    Seen looked device ∧ (versionsOf old releases device.buildTarget).best? device.model = none
  novel : ∀ device, device ∈ outcome.novel ↔
    Seen looked device ∧
      (∃ best, (versionsOf old releases device.buildTarget).best? device.model = some best) ∧
      ∀ version firmware, ¬ FromRecord old releases looked device version firmware ∧
        ¬ FromManifest old releases looked device version firmware

section Decision

variable {old : Manifest} {scan : BoardScan} {model : String}

/-- A model is invalid exactly when it has no best version. -/
theorem decide_eq_invalid_iff :
    decide old scan model = .invalid ↔ scan.versions.best? model = none := by
  unfold decide
  cases scan.versions.best? model with
  | none => simp
  | some best =>
    simp only [reduceCtorEq, iff_false]
    split
    · exact nofun
    · split <;> exact nofun

/-- A model is novel exactly when it has a best version but is not approved. -/
theorem decide_eq_novel_iff :
    decide old scan model = .novel ↔ (∃ best, scan.versions.best? model = some best) ∧
      ∀ version firmware, decide old scan model ≠ .approved version firmware := by
  rw [← Option.ne_none_iff_exists', ne_eq, ← decide_eq_invalid_iff]
  cases decide old scan model <;> simp

end Decision

section Lookups

variable {σ : Type} {host : Host σ} {old : Manifest} {releases : List BoardRelease}
  {session : Session σ} {device : BoardModel} {version firmware : String}

/-- What is kept of a board has firmware for a model at a version when a record that was
found has. -/
theorem recorded_iff_lookup {buildTarget model : String} :
    ((recordsOf (survey host old releases session) buildTarget).get? version).bind (·.get? model) =
        some firmware ↔
      ∃ record, ⟨buildTarget, version, .ok record⟩ ∈ survey host old releases session ∧
        record.get? model = some firmware := by
  simp only [Option.bind_eq_some_iff, record_iff_lookup]

/-- What is kept of a board has no firmware for a model at a version when no record that
was found has. -/
theorem unrecorded_iff_lookup {buildTarget model : String} :
    ((recordsOf (survey host old releases session) buildTarget).get? version).bind (·.get? model) =
        none ↔
      ∀ record, ⟨buildTarget, version, .ok record⟩ ∈ survey host old releases session →
        record.get? model = none := by
  simp only [Option.bind_eq_none_iff, record_iff_lookup]

/-- A device is seen when its build target has a name and its model is one of the board. -/
theorem seen_iff :
    Seen (survey host old releases session) device ↔ device.buildTarget ≠ "" ∧
      device.model ∈
        models (boardScan old releases (survey host old releases session) device.buildTarget) := by
  rw [mem_models]
  constructor
  · rintro ⟨version, record, found, names⟩
    exact ⟨(relevant_of_record (record_iff_lookup.mpr found)).1, version, record,
      record_iff_lookup.mpr found, names⟩
  · rintro ⟨_, version, record, kept, names⟩
    exact ⟨version, record, record_iff_lookup.mp kept, names⟩

/-- A reconciliation decides about the devices that are seen. -/
theorem mem_decided_iff_seen {outcome : ModelOutcome} :
    (device, outcome) ∈ decided old (scans host old releases session) ↔
      Seen (survey host old releases session) device ∧
        decide old (boardScan old releases (survey host old releases session) device.buildTarget)
          device.model = outcome := by
  rw [mem_decided_iff, seen_iff, and_assoc]

/-- A device is approved from a record or from the manifest. -/
theorem approved_iff_origin :
    decide old (boardScan old releases (survey host old releases session) device.buildTarget)
        device.model = .approved version firmware ↔
      FromRecord old releases (survey host old releases session) device version firmware ∨
        FromManifest old releases (survey host old releases session) device version firmware := by
  rw [approved_iff]
  refine or_congr ⟨?_, ?_⟩ ⟨?_, ?_⟩
  · rintro ⟨best, recorded⟩
    exact ⟨best, recorded_iff_lookup.mp recorded⟩
  · rintro ⟨best, found⟩
    exact ⟨best, recorded_iff_lookup.mpr found⟩
  · rintro ⟨⟨best, chosen, unrecorded⟩, kept, choice⟩
    exact ⟨⟨best, chosen, unrecorded_iff_lookup.mp unrecorded⟩, kept, choice⟩
  · rintro ⟨⟨best, chosen, unfound⟩, kept, choice⟩
    exact ⟨⟨best, chosen, unrecorded_iff_lookup.mpr unfound⟩, kept, choice⟩

/-- The two sections of a reconciled manifest have a version and firmware for a device when
it is approved with these. -/
theorem emitted_iff_approves :
    (⟨keyOf device, version⟩ ∈ (assemble old (scans host old releases session)).manifest.cros ∧
        ⟨keyOf device, firmware⟩ ∈
          (assemble old (scans host old releases session)).manifest.firmware) ↔
      Approves old releases (survey host old releases session) device version firmware := by
  rw [mem_cros_iff, mem_firmware_iff]
  constructor
  · rintro ⟨⟨other, first⟩, ⟨_, second⟩⟩
    obtain ⟨_, rfl⟩ := first.unique second
    exact first
  · intro approved
    exact ⟨⟨firmware, approved⟩, ⟨version, approved⟩⟩

/-- The devices that are listed with an outcome are those that are decided so. -/
theorem mem_withOutcome {outcome : ModelOutcome} {decided : List (BoardModel × ModelOutcome)} :
    device ∈ withOutcome outcome decided ↔ (device, outcome) ∈ decided := by
  simp [withOutcome]

end Lookups

/-- A reconciliation that is not told to stop has an outcome, and each entry of it, and each
device that is left out, has its origin in what was given and what was looked up. -/
theorem reconcile_origins {σ : Type} (host : Host σ) (old : Manifest)
    (releases : List BoardRelease) (session : Session σ)
    (undisturbed : Undisturbed (survey host old releases session)) :
    ∃ outcome, ((reconcile old releases).perform host session).1 = .ok outcome ∧
      Origins old releases (survey host old releases session) outcome := by
  refine ⟨assemble old (scans host old releases session),
    (reconcile_ok_iff _ _ _ _ _).mpr ⟨undisturbed, rfl⟩, ?_⟩
  constructor
  case lookups => exact looksUpReferred_survey host old releases session
  case versions => exact collected_versionsOf old releases
  case emitted =>
    intro device version firmware
    rw [emitted_iff_approves, Approves, ← and_assoc, ← seen_iff, approved_iff_origin]
  case invalid =>
    intro device
    have listed : device ∈ (assemble old (scans host old releases session)).invalid ↔
        (device, .invalid) ∈ decided old (scans host old releases session) := mem_withOutcome
    rw [listed, mem_decided_iff_seen, decide_eq_invalid_iff]
    rfl
  case novel =>
    intro device
    have listed : device ∈ (assemble old (scans host old releases session)).novel ↔
        (device, .novel) ∈ decided old (scans host old releases session) := mem_withOutcome
    rw [listed, mem_decided_iff_seen, decide_eq_novel_iff]
    simp only [ne_eq, approved_iff_origin, not_or]
    rfl

/-- The model has a best version, which the archive does not have. It keeps the firmware on
record, with the version of its board. -/
theorem reconcile_origins_boardAndModel :
    Undisturbed (survey boardRecord.host boardAndModel [] archiveSession) ∧
      ∃ outcome,
        ((reconcile boardAndModel []).perform boardRecord.host archiveSession).1 = .ok outcome ∧
          Origins boardAndModel [] (survey boardRecord.host boardAndModel [] archiveSession)
            outcome := by
  have undisturbed : Undisturbed (survey boardRecord.host boardAndModel [] archiveSession) :=
    ((reconcile_ok_iff _ _ _ _ _).mp reconcile_boardAndModel).1
  exact ⟨undisturbed, reconcile_origins boardRecord.host boardAndModel [] archiveSession undisturbed⟩

end Reconcile

end StableFleet
