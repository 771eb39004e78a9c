import StableFleet.Proofs.Reconcile.Origin

/-!
# Every observed model is listed once

A reconciliation decides about the devices that it observes: the models that the record of
a build names which was looked up and found. The builds that are looked up are those that
the manifest and the feed refer to. So a device that is observed is listed in the two
sections of the manifest, or as novel, or as invalid, and in one of these ways only; and
nothing else is listed.
-/

namespace StableFleet

namespace Reconcile

/-- A device is observed when its build target has a name and is named, and a version of it
that is referred to was looked up and has a record that names its model. -/
def Observed (old : Manifest) (releases : List BoardRelease) (looked : List Lookup)
    (device : BoardModel) : Prop :=
  device.buildTarget ≠ "" ∧ Named old releases device.buildTarget ∧
    ∃ version, version ≠ "" ∧ Refers old releases device.buildTarget version ∧
      ∃ record : ModelFirmware,
        ⟨device.buildTarget, version, .ok record⟩ ∈ looked ∧ record.contains device.model = true

/-- A device is observed when some record that was found names it. -/
theorem observed_iff_seen {σ : Type} {host : Host σ} {old : Manifest}
    {releases : List BoardRelease} {session : Session σ} {device : BoardModel} :
    Observed old releases (survey host old releases session) device ↔
      Seen (survey host old releases session) device := by
  constructor
  · rintro ⟨_, _, version, _, _, record, looked, names⟩
    exact ⟨version, record, looked, names⟩
  · rintro ⟨version, record, looked, names⟩
    obtain ⟨nonempty, given, refers⟩ :=
      ((looksUpReferred_survey host old releases session).referred _ _).mp ⟨_, looked⟩
    exact ⟨nonempty, refers.versioned.named, version, given, refers, record, looked, names⟩

/-- A reconciliation decides about the observed devices. -/
theorem mem_decided_iff_observed {σ : Type} (host : Host σ) (old : Manifest)
    (releases : List BoardRelease) (session : Session σ) (device : BoardModel) :
    device ∈ (decided old (scans host old releases session)).map (·.1) ↔
      Observed old releases (survey host old releases session) device := by
  rw [observed_iff_seen]
  constructor
  · intro present
    obtain ⟨⟨_, outcome⟩, chosen, rfl⟩ := List.mem_map.mp present
    exact (mem_decided_iff_seen.mp chosen).1
  · intro seen
    exact List.mem_map.mpr ⟨(device, _), mem_decided_iff_seen.mpr ⟨seen, rfl⟩, rfl⟩

/-- What a reconciliation promises of its outcome, given what its lookups were
answered. -/
structure Partitions (old : Manifest) (releases : List BoardRelease) (looked : List Lookup)
    (outcome : Reconciliation) : Prop where
  /-- What was looked up is what the manifest and the feed refer to. -/
  lookups : LooksUpReferred old releases looked
  /-- An observed device is listed once in each of the two sections, or once as
  novel, or once as invalid. -/
  observed : ∀ device, Observed old releases looked device →
    outcome.listings device = (1, 1, 0, 0) ∨ outcome.listings device = (0, 0, 1, 0) ∨
      outcome.listings device = (0, 0, 0, 1)
  /-- No other device is listed. -/
  others : ∀ device, ¬ Observed old releases looked device →
    outcome.listings device = (0, 0, 0, 0)
  /-- The two sections have the same keys. -/
  keys : (outcome.manifest.cros.map (·.key)).Perm (outcome.manifest.firmware.map (·.key))
  /-- Each key occurs once. -/
  distinct : (outcome.manifest.cros.map (·.key)).Nodup
  /-- No key is without a build target. -/
  named : ∀ entry ∈ outcome.manifest.cros, entry.key.buildTarget ≠ ""
  novel : outcome.novel.Pairwise BoardModel.Precedes
  invalid : outcome.invalid.Pairwise BoardModel.Precedes
  faft : outcome.manifest.faft = Manifest.sortEntries old.faft

/-- A reconciliation that is not told to stop has an outcome, and the outcome
lists every observed device in one way and nothing else. -/
theorem reconcile_partitions {σ : Type} (host : Host σ) (old : Manifest)
    (releases : List BoardRelease) (session : Session σ)
    (undisturbed : Undisturbed (survey host old releases session)) :
    ∃ outcome, ((reconcile old releases).perform host session).1 = .ok outcome ∧
      Partitions old releases (survey host old releases session) outcome := by
  let scanned := scans host old releases session
  have ascending : ((decided old scanned).map (·.1)).Pairwise BoardModel.Precedes :=
    decided_ascending old (scansOf_ascending _ (BoardVersions.collect old releases).ascending)
  have distinct : ((decided old scanned).map (·.1)).Nodup :=
    ascending.imp BoardModel.ne_of_precedes
  have observes := mem_decided_iff_observed host old releases session
  obtain ⟨os, _⟩ := devices_assemble old scanned
  refine ⟨assemble old scanned, (reconcile_ok_iff _ _ _ _ _).mpr ⟨undisturbed, rfl⟩, ?_⟩
  constructor
  case lookups => exact looksUpReferred_survey host old releases session
  case observed =>
    intro device observed
    obtain ⟨⟨_, outcome⟩, chosen, rfl⟩ := List.mem_map.mp ((observes device).mpr observed)
    rw [listings_assemble]
    simp only [count_choose distinct chosen]
    cases outcome with
    | approved version firmware => exact .inl rfl
    | novel => exact .inr (.inl rfl)
    | invalid => exact .inr (.inr rfl)
  case others =>
    intro device unobserved
    have absent : device ∉ (decided old scanned).map (·.1) := fun member =>
      unobserved ((observes device).mp member)
    rw [listings_assemble]
    simp only [count_choose_of_absent absent]
  case keys => exact keys_assemble old scanned
  case distinct =>
    rw [map_key]
    have once := (os.nodup_iff).mpr ((choose_sublist approves).nodup distinct)
    refine List.pairwise_map.mpr (once.imp ?_)
    intro left right different same
    cases left
    cases right
    cases same
    exact different rfl
  case named =>
    intro entry present empty
    have member := os.subset (List.mem_map_of_mem present)
    have observed := (observes entry.device).mp ((choose_sublist approves).subset member)
    exact observed.1 empty
  case novel => exact ascending.sublist (choose_sublist (· = .novel))
  case invalid => exact ascending.sublist (choose_sublist (· = .invalid))
  case faft => rfl

/-- An archive with the records of two versions of one board, and with a record of another
board at what is no version. -/
def threeRecords : Shelf where
  objects := [
    ("gs://archive/nami-release/R85-13310.91.0/metadata.json",
      Shelf.record "nami" "sona" "Google_Nami.10775.108.0"),
    ("gs://archive/nami-release/R85-13310.41.0/metadata.json",
      Shelf.record "nami" "vayne" "Google_Nami.10775.9.0"),
    ("gs://archive/coral-release/latest/metadata.json",
      Shelf.record "coral" "babytega" "Google_Coral.10068.75.0")]

/-- A manifest that names these boards, and a third version of the first that the archive does
not have. -/
def namingThreeRecords : Manifest where
  cros := [.of "nami" "" "R85-13310.41.0", .of "nami" "sona" "R84-1.0.0", .of "coral" "" "latest"]

/-- One of the models that the records name is approved, one has no firmware for its best
version, and one has no valid version. -/
theorem reconcile_partitions_three_records :
    let releases : List BoardRelease := [⟨"nami", "R85-13310.91.0"⟩]
    let session : Session Unit :=
      ⟨ArchiveReader.new .objectStore "gs://archive" ⟨"/scratch"⟩, Run.start ()⟩
    let looked := survey threeRecords.host namingThreeRecords releases session
    Undisturbed looked ∧
      ∃ outcome, ((reconcile namingThreeRecords releases).perform threeRecords.host session).1 =
          .ok outcome ∧
        Partitions namingThreeRecords releases looked outcome ∧
        outcome.manifest.cros = [.of "nami" "sona" "R85-13310.91.0"] ∧
        outcome.manifest.firmware = [.of "nami" "sona" "Google_Nami.10775.108.0"] ∧
        outcome.novel = [⟨"nami", "vayne"⟩] ∧ outcome.invalid = [⟨"coral", "babytega"⟩] := by
  intro releases session looked
  have reconciled : ((reconcile namingThreeRecords releases).perform threeRecords.host session).1 =
      .ok {
        manifest := {
          cros := [.of "nami" "sona" "R85-13310.91.0"]
          firmware := [.of "nami" "sona" "Google_Nami.10775.108.0"] }
        novel := [⟨"nami", "vayne"⟩]
        invalid := [⟨"coral", "babytega"⟩] } :=
    eq_ok_of_toOption (by decide +kernel)
  have undisturbed : Undisturbed looked := ((reconcile_ok_iff _ _ _ _ _).mp reconciled).1
  obtain ⟨outcome, found, partitions⟩ :=
    reconcile_partitions threeRecords.host namingThreeRecords releases session undisturbed
  obtain rfl := Except.ok.inj (found.symm.trans reconciled)
  exact ⟨undisturbed, _, found, partitions, rfl, rfl, rfl, rfl⟩

end Reconcile

end StableFleet
