import StableFleet.Proofs.Reconcile.Origin
import StableFleet.Proofs.Reconcile.Served
import StableFleet.Proofs.Validation.Soundness
import StableFleet.Proofs.Validation.Trace

/-!
# Which files lookups download to

A lookup downloads to the file that its reader has for its build, if it downloads at all. So
the files that a reconciliation or a check of a manifest downloads to are told by the builds
that it looks up. Those of a reconciliation are in the manifest or in the feed, and so are
the build targets and the versions of the manifest that it makes. A check looks up build
targets of the manifest at versions of its operating-system entries.
-/

namespace StableFleet

/-- The file that a request downloads to. -/
def Request.target? : Request → Option Path
  | .download _ _ target => some target
  | _ => none

/-- The files that some exchanges download to, in order. -/
def targets (exchanges : List Exchange) : List Path :=
  exchanges.filterMap fun exchange => exchange.request.target?

@[simp] theorem targets_append (exchanges later : List Exchange) :
    targets (exchanges ++ later) = targets exchanges ++ targets later :=
  List.filterMap_append

namespace Reading

variable {α β : Type} {asked : String → String → Prop}

/-- A reading fetches builds of a kind: every file that it downloads to is the one that its
reader has for such a build. The reader goes on as the same. -/
structure Fetches (asked : String → String → Prop) (reading : Reading α) : Prop where
  lands : ∀ {σ : Type} (host : Host σ) (session : Session σ) {target : Path},
    target ∈ targets (reading.exchanges host session) → ∃ buildTarget version,
      asked buildTarget version ∧ target = session.reader.downloadPath buildTarget version
  continues : ∀ {σ : Type} (host : Host σ) (session : Session σ),
    session.reader.Continues (reading.perform host session).2.reader

theorem fetches_pure (result : α) : Fetches asked (pure result : Reading α) :=
  ⟨nofun, fun _ session => .refl session.reader⟩

theorem fetches_bind {reading : Reading α} {after : α → Reading β}
    (first : Fetches asked reading) (second : ∀ result, Fetches asked (after result)) :
    Fetches asked (reading >>= after) := by
  refine ⟨fun host session target landed => ?_, fun host session => ?_⟩
  · rw [exchanges_bind, targets_append] at landed
    rcases List.mem_append.mp landed with here | later
    · exact first.lands host session here
    · have continues := first.continues host session
      cases performed : reading.perform host session with
      | mk answer left =>
        rw [performed] at later continues
        cases answer with
        | error error => cases later
        | ok result =>
          obtain ⟨buildTarget, version, counts, same⟩ := (second result).lands host left later
          exact ⟨buildTarget, version, counts, by rw [same, continues.downloadPath]⟩
  · have continues := first.continues host session
    rw [perform_bind]
    cases performed : reading.perform host session with
    | mk answer left =>
      rw [performed] at continues
      cases answer with
      | error error => exact continues
      | ok result => exact continues.trans ((second result).continues host left)

/-- Readings that fetch builds of a kind compose. -/
theorem composes_fetches : Composes fun _ reading => Fetches asked reading :=
  ⟨fetches_pure, fetches_bind⟩

theorem fetches_unlessStopped {reading : Reading α} (fetches : Fetches asked reading) :
    Fetches asked (ArchiveReader.unlessStopped reading) := by
  refine ⟨fun host session target landed => ?_, fun host session => ?_⟩
  · rw [exchanges_unlessStopped] at landed
    exact fetches.lands host session landed
  · have continues := fetches.continues host session
    rw [perform_unlessStopped]
    cases performed : reading.perform host session with
    | mk answer left =>
      rw [performed] at continues
      cases answer with
      | ok result => exact continues
      | error error => cases error <;> exact continues

/-- A lookup fetches its build. -/
theorem fetches_firmwareVersions {buildTarget version : String}
    (counts : asked buildTarget version) :
    Fetches asked (ArchiveReader.firmwareVersions buildTarget version) := by
  refine ⟨fun host session target landed => ?_, fun host session =>
    ArchiveReader.continues_lookup host session buildTarget version⟩
  rcases ArchiveReader.lookup_cases host session buildTarget version with
    ⟨_, _, none⟩ | ⟨_, _, _, _, none⟩ | ⟨answer, _, _, _, _, _, one⟩
  · rw [none] at landed
    cases landed
  · rw [none] at landed
    cases landed
  · rw [one] at landed
    exact ⟨buildTarget, version, counts, List.mem_singleton.mp landed⟩

/-- A lookup of the firmware of a model fetches its build. -/
theorem fetches_firmwareVersion {buildTarget version : String} (model : String)
    (counts : asked buildTarget version) :
    Fetches asked (ArchiveReader.firmwareVersion buildTarget model version) := by
  refine ⟨fun host session target landed => ?_, fun host session => ?_⟩
  · rw [ArchiveReader.exchanges_firmwareVersion] at landed
    exact (fetches_firmwareVersions counts).lands host session landed
  · rw [ArchiveReader.perform_firmwareVersion]
    exact ArchiveReader.continues_lookup host session buildTarget version

end Reading

namespace Reconcile

section Versioned

variable {old : Manifest} {releases : List BoardRelease} {buildTarget version : String}

/-- A version for a key is that of an entry of the manifest. -/
theorem versioned_of_latestFor? {model : String}
    (found : Manifest.latestFor? old.cros ⟨buildTarget, model⟩ = some version) :
    Versioned old releases buildTarget version :=
  .inl ⟨_, List.mem_reverse.mp (Manifest.mem_of_versionFor? found), rfl, rfl⟩

/-- The version for a whole board is that of an entry of the manifest. -/
theorem versioned_legacy (given : (versionsOf old releases buildTarget).legacy ≠ "") :
    Versioned old releases buildTarget (versionsOf old releases buildTarget).legacy := by
  have legacy := (collected_versionsOf old releases buildTarget).legacy
  rw [legacy] at given ⊢
  cases found : Manifest.latestFor? old.cros ⟨buildTarget, ""⟩ with
  | none =>
    rw [found] at given
    exact absurd rfl given
  | some version => exact versioned_of_latestFor? found

/-- The version for a single model is that of an entry of the manifest. -/
theorem versioned_perModel {model : String}
    (own : (versionsOf old releases buildTarget).perModel.get? model = some version) :
    Versioned old releases buildTarget version := by
  rw [(collected_versionsOf old releases buildTarget).perModel] at own
  split at own
  · cases own
  · exact versioned_of_latestFor? own

/-- The versions that a board refers to are in the manifest or in the feed. -/
theorem versioned_of_relevant
    (relevant : version ∈ (versionsOf old releases buildTarget).relevant) :
    Versioned old releases buildTarget version :=
  (mem_relevant_iff_refers.mp relevant).2.versioned

/-- The version of an approved model is in the manifest or in the feed. -/
theorem Approves.versioned {looked : List Lookup} {device : BoardModel} {firmware : String}
    (approves : Approves old releases looked device version firmware) :
    Versioned old releases device.buildTarget version := by
  rcases approved_iff.mp approves.2.2 with resolved | retained
  · exact versioned_of_relevant (BoardVersions.best?_mem_relevant resolved.best)
  · rcases retained.version with ⟨given, rfl⟩ | ⟨_, own⟩
    · exact versioned_legacy given
    · exact versioned_perModel own

/-- A reconciliation fetches builds of the manifest and of the feed. -/
theorem fetches_reconcile (old : Manifest) (releases : List BoardRelease) :
    Reading.Fetches (Versioned old releases) (reconcile old releases) := by
  refine Reading.composes_fetches.reconcile_collected fun board collected _ version relevant => ?_
  have versions : versionsOf old releases board.1 = board.2 := by
    rw [versionsOf, Table.mem_toList_iff.mp collected]
    rfl
  refine Reading.fetches_unlessStopped (Reading.fetches_firmwareVersions ?_)
  exact versioned_of_relevant (versions.symm ▸ relevant)

/-- The entries that a reconciliation makes have build targets that are named, and the
versions of its operating-system entries are in the manifest or in the feed. -/
theorem versioned_of_reconcile {σ : Type} {host : Host σ} {session : Session σ}
    {outcome : Reconciliation}
    (reconciled : ((reconcile old releases).perform host session).1 = .ok outcome) :
    (∀ entry ∈ outcome.manifest.cros ++ outcome.manifest.firmware,
        Named old releases entry.key.buildTarget) ∧
      ∀ entry ∈ outcome.manifest.cros,
        Versioned old releases entry.key.buildTarget entry.version := by
  obtain ⟨_, rfl⟩ := (reconcile_ok_iff host old releases session outcome).mp reconciled
  have os : ∀ entry ∈ (assemble old (scans host old releases session)).manifest.cros,
      Versioned old releases entry.key.buildTarget entry.version := by
    intro entry present
    obtain ⟨_, approves⟩ := mem_cros_iff.mp present
    exact approves.versioned
  refine ⟨fun entry present => ?_, os⟩
  rcases List.mem_append.mp present with inOs | inFirmware
  · exact (os entry inOs).named
  · obtain ⟨_, approves⟩ := mem_firmware_iff.mp inFirmware
    exact approves.versioned.named

end Versioned

end Reconcile

namespace Deep

/-- A manifest has a build target, and a version of some operating-system entry. -/
structure Checked (manifest : Manifest) (buildTarget version : String) : Prop where
  named : ∃ entry ∈ manifest.cros ++ manifest.firmware, entry.key.buildTarget = buildTarget
  versioned : ∃ entry ∈ manifest.cros, entry.version = version

variable {σ : Type} {host : Host σ} {session : Session σ} {manifest : Manifest}
  {entry : VersionEntry} {exchanges : List Exchange} {target : Path}

/-- The check of an operating-system entry downloads to the file of the entry. -/
theorem lands_checkOs
    (traced : (entry, exchanges) ∈ traceAll host checkOs {} manifest.cros session)
    (landed : target ∈ targets exchanges) : ∃ buildTarget version,
      Checked manifest buildTarget version ∧
        target = session.reader.downloadPath buildTarget version := by
  obtain ⟨member, before, first, continues, rfl⟩ := mem_traceAll
    (fun before after => before.2.reader.Continues after.2.reader) (fun _ => .refl _)
    (fun before after => before.trans after)
    (fun _ _ {_ _ _ _} checked => (goesOn_checkOs checked).continues) traced
  have fetches : Reading.Fetches (Checked manifest) (checkOs before entry) :=
    Reading.composes_fetches.checkOs before <| Reading.fetches_unlessStopped <|
      Reading.fetches_firmwareVersions
        ⟨⟨entry, List.mem_append_left _ member, rfl⟩, ⟨entry, member, rfl⟩⟩
  obtain ⟨buildTarget, version, checked, same⟩ := fetches.lands host first landed
  exact ⟨buildTarget, version, checked, by rw [same, continues.downloadPath]⟩

/-- The check of a firmware entry downloads to the file of its build target at the version
of some operating-system entry. -/
theorem lands_checkFirmware {progress : Progress} {middle : Session σ}
    (checkedOs : (checkAll checkOs {} manifest.cros).perform host session = (.ok progress, middle))
    (traced : (entry, exchanges) ∈ traceAll host checkFirmware progress manifest.firmware middle)
    (landed : target ∈ targets exchanges) : ∃ buildTarget version,
      Checked manifest buildTarget version ∧
        target = session.reader.downloadPath buildTarget version := by
  obtain ⟨goesOn, found⟩ := found_checkOs checkedOs
  obtain ⟨member, before, first, ⟨continues, kept⟩, rfl⟩ := mem_traceAll
    (fun before after => before.2.reader.Continues after.2.reader ∧ after.1.found = before.1.found)
    (fun _ => ⟨.refl _, rfl⟩)
    (fun before after => ⟨before.1.trans after.1, after.2.trans before.2⟩)
    (fun _ _ {_ _ _ _} checked =>
      ⟨(goesOn_checkFirmware checked).continues, (checkFirmware_keeps checked).2.1⟩) traced
  have fetches : Reading.Fetches (Checked manifest) (checkFirmware before entry) := by
    refine Reading.composes_fetches.checkFirmware fun version known => ?_
    refine Reading.fetches_unlessStopped (Reading.fetches_firmwareVersion _ ?_)
    rw [show before.found = progress.found from kept] at known
    rcases found known with contradiction | ⟨os, ofOs, _, same⟩
    · cases contradiction
    · exact ⟨⟨entry, List.mem_append_right _ member, rfl⟩, ⟨os, ofOs, same⟩⟩
  obtain ⟨buildTarget, version, checked, same⟩ := fetches.lands host first landed
  exact ⟨buildTarget, version, checked,
    by rw [same, (goesOn.continues.trans continues).downloadPath]⟩

/-- A check of a manifest fetches build targets of the manifest at versions of its
operating-system entries. -/
theorem fetches_validate (manifest : Manifest) :
    Reading.Fetches (Checked manifest) (validate manifest) := by
  have goesOn : Reading.Fetches (fun _ _ => True) (validate manifest) :=
    Reading.composes_fetches.validate
      (fun _ _ => Reading.fetches_unlessStopped (Reading.fetches_firmwareVersions trivial))
      (fun _ _ _ => Reading.fetches_unlessStopped (Reading.fetches_firmwareVersion _ trivial))
      manifest
  refine ⟨fun host session target landed => ?_, goesOn.continues⟩
  rw [exchanges_validate] at landed
  obtain ⟨exchange, present, downloads⟩ := List.mem_filterMap.mp landed
  obtain ⟨⟨entry, exchanges⟩, traced, inside⟩ := List.mem_flatMap.mp present
  have here : target ∈ targets exchanges := List.mem_filterMap.mpr ⟨exchange, inside, downloads⟩
  rcases List.mem_append.mp traced with ofOs | ofFirmware
  · exact lands_checkOs ofOs here
  · cases checkedOs : (checkAll checkOs {} manifest.cros).perform host session with
    | mk answer middle =>
      rw [checkedOs] at ofFirmware
      cases answer with
      | error error => cases ofFirmware
      | ok progress => exact lands_checkFirmware checkedOs ofFirmware here

end Deep

end StableFleet
