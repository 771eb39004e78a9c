import StableFleet.Proofs.Reconcile.Decided

/-!
# What a new manifest approves

An entry of the new manifest comes of a decision to approve a model. The version
is the best one of the model, with the firmware that the record at that version
has for it; or, where that record does not name the model, it is the version that
the firmware on record falls back to.

The best version of a model is valid, and is not smaller than a valid version on
record for the model.
-/

namespace StableFleet

/-- No version is smaller than itself. -/
theorem OsVersion.compare_self_ne_lt (version : OsVersion) : compare version version ≠ .lt := by
  rw [OsVersion.compare_eq_iff.mpr rfl]
  decide

/-- The best version of a model is that of the feed if it is valid and no smaller than a
valid version on record, and the version on record if it is valid and greater than a valid
version of the feed. -/
theorem BoardVersions.best?_eq_some_iff {versions : BoardVersions} {model best : String} :
    versions.best? model = some best ↔
      (best = versions.released ∧ ∃ released, OsVersion.parse? versions.released = some released ∧
        ∀ pinned, OsVersion.parse? (versions.pinned model) = some pinned →
          compare released pinned ≠ .lt) ∨
      (best = versions.pinned model ∧
        ∃ pinned, OsVersion.parse? (versions.pinned model) = some pinned ∧
          ∀ released, OsVersion.parse? versions.released = some released →
            compare released pinned = .lt) := by
  unfold BoardVersions.best?
  dsimp only
  cases new : OsVersion.parse? versions.released with
  | none =>
    cases old : OsVersion.parse? (versions.pinned model) with
    | none => simp
    | some pinned => simp [@eq_comm _ best]
  | some released =>
    cases old : OsVersion.parse? (versions.pinned model) with
    | none => simp [@eq_comm _ best]
    | some pinned =>
      by_cases smaller : compare released pinned = .lt
      · simp [smaller, @eq_comm _ best]
      · simp [smaller, @eq_comm _ best]

/-- The best version of a model is a valid one, and no valid version on record for
the model is greater. -/
theorem BoardVersions.best?_spec {versions : BoardVersions} {model best : String}
    (found : versions.best? model = some best) :
    ∃ version, OsVersion.parse? best = some version ∧
      ∀ pinned, OsVersion.parse? (versions.pinned model) = some pinned →
        compare version pinned ≠ .lt := by
  rcases best?_eq_some_iff.mp found with ⟨rfl, released, valid, atLeast⟩ | ⟨rfl, pinned, valid, _⟩
  · exact ⟨released, valid, atLeast⟩
  · refine ⟨pinned, valid, fun other same => ?_⟩
    cases valid.symm.trans same
    exact pinned.compare_self_ne_lt

namespace Reconcile

variable {old : Manifest} {scan : BoardScan} {model : String}

/-- A model is approved with its best version and the firmware on the record of that
version, or else with what its firmware on record falls back to. -/
theorem decide_eq_approved_iff {version firmware : String} :
    decide old scan model = .approved version firmware ↔
      ∃ best, scan.versions.best? model = some best ∧
        ((version = best ∧
            (scan.records.get? best).bind (·.get? model) = some firmware) ∨
          ((scan.records.get? best).bind (·.get? model) = none ∧
            fallback? old scan model = some (version, firmware))) := by
  unfold decide
  cases best : scan.versions.best? model with
  | none => simp
  | some chosen =>
    cases archived : (scan.records.get? chosen).bind (·.get? model) with
    | some found =>
      simp only [archived, ModelOutcome.approved.injEq, Option.some.injEq, exists_eq_left',
        reduceCtorEq, false_and, or_false, eq_comm]
    | none =>
      cases kept : fallback? old scan model with
      | none => simp [archived]
      | some pair =>
        simp only [archived, Option.some.injEq, exists_eq_left', reduceCtorEq, and_false,
          false_or, true_and, ModelOutcome.approved.injEq, Prod.ext_iff]

/-- Firmware falls back to the firmware on record. The version is that of the board,
or that of the model if the board has none. -/
theorem fallback?_eq_some_iff {version firmware : String} :
    fallback? old scan model = some (version, firmware) ↔
      old.firmwareFor? scan.buildTarget model = some firmware ∧
        ((scan.versions.legacy ≠ "" ∧ version = scan.versions.legacy) ∨
          (scan.versions.legacy = "" ∧ scan.versions.perModel.get? model = some version)) := by
  unfold fallback?
  cases kept : old.firmwareFor? scan.buildTarget model with
  | none => simp
  | some found =>
    by_cases empty : scan.versions.legacy = ""
    · cases own : scan.versions.perModel.get? model with
      | none => simp [empty]
      | some version => simp [empty, and_comm]
    · have given : scan.versions.legacy.isEmpty = false := by simpa using empty
      simp only [given, Option.bind_eq_bind, Option.bind_some, Bool.false_eq_true, if_false]
      constructor
      · rintro ⟨⟩
        exact ⟨rfl, .inl ⟨empty, rfl⟩⟩
      · rintro ⟨⟨⟩, ⟨_, rfl⟩ | ⟨contradiction, _⟩⟩
        · rfl
        · exact absurd contradiction empty

/-- Entries that are made of decisions are those that a decision about their own
device makes. -/
theorem mem_entries {entryOf : BoardModel × ModelOutcome → Option VersionEntry}
    {makes : ModelOutcome → VersionEntry → Prop}
    (made : ∀ device outcome entry,
      entryOf (device, outcome) = some entry ↔ entry.device = device ∧ makes outcome entry)
    {scans : List BoardScan} {entry : VersionEntry} :
    entry ∈ Manifest.sortEntries ((decided old scans).filterMap entryOf) ↔
      ∃ scan ∈ scans, entry.key.buildTarget = scan.buildTarget ∧
        entry.key.model ∈ models scan ∧ makes (decide old scan entry.key.model) entry := by
  rw [(Manifest.sortEntries_perm _).mem_iff, List.mem_filterMap]
  constructor
  · rintro ⟨⟨device, outcome⟩, chosen, found⟩
    obtain ⟨rfl, makes⟩ := (made device outcome entry).mp found
    obtain ⟨scan, member, ofBoard, named, same⟩ := mem_decided.mp chosen
    exact ⟨scan, member, ofBoard, named, same ▸ makes⟩
  · rintro ⟨scan, member, ofBoard, named, makes⟩
    have chosen : (entry.device, decide old scan entry.key.model) ∈ decided old scans :=
      mem_decided.mpr ⟨scan, member, ofBoard, named, rfl⟩
    exact ⟨_, chosen, (made _ _ entry).mpr ⟨rfl, makes⟩⟩

/-- The operating-system entries of an assembled manifest are those of the approved
models. -/
theorem mem_cros_assemble {scans : List BoardScan} {entry : VersionEntry} :
    entry ∈ (assemble old scans).manifest.cros ↔
      ∃ scan ∈ scans, entry.key.buildTarget = scan.buildTarget ∧
        entry.key.model ∈ models scan ∧
        ∃ firmware, decide old scan entry.key.model = .approved entry.version firmware := by
  have made (device : BoardModel) (outcome : ModelOutcome) (entry : VersionEntry) :
      osEntry? (device, outcome) = some entry ↔
        entry.device = device ∧ ∃ firmware, outcome = .approved entry.version firmware := by
    obtain ⟨⟨buildTarget, model⟩, version⟩ := entry
    obtain ⟨board, name⟩ := device
    cases outcome <;> simp [VersionEntry.device, osEntry?, and_assoc, eq_comm]
  exact mem_entries made

/-- The firmware entries of an assembled manifest are those of the approved models. -/
theorem mem_firmware_assemble {scans : List BoardScan} {entry : VersionEntry} :
    entry ∈ (assemble old scans).manifest.firmware ↔
      ∃ scan ∈ scans, entry.key.buildTarget = scan.buildTarget ∧
        entry.key.model ∈ models scan ∧
        ∃ version, decide old scan entry.key.model = .approved version entry.version := by
  have made (device : BoardModel) (outcome : ModelOutcome) (entry : VersionEntry) :
      firmwareEntry? (device, outcome) = some entry ↔
        entry.device = device ∧ ∃ version, outcome = .approved version entry.version := by
    obtain ⟨⟨buildTarget, model⟩, version⟩ := entry
    obtain ⟨board, name⟩ := device
    cases outcome <;> simp [VersionEntry.device, firmwareEntry?, and_assoc, eq_comm]
  exact mem_entries made

end Reconcile

end StableFleet
