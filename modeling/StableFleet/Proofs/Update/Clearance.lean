import StableFleet.Proofs.Reconcile.Answers
import StableFleet.Proofs.Reconcile.Boards
import StableFleet.Proofs.Validation.Backing

/-!
# What a reconciliation leaves for the check of its manifest

An update has its manifest checked with the reader that the reconciliation has left.
That reader has kept the records that the resolved models were resolved by, so it backs
the entries of these models, and the check finds them as they were found, whatever the
archive has become. The check blames the entries of retained models only.
-/

namespace StableFleet.Reconcile

variable {σ τ : Type} {host : Host σ} {old : Manifest} {releases : List BoardRelease}
  {session left : Session σ} {outcome : Reconciliation}

/-- A key of a reconciled manifest is that of a resolved model. -/
def ResolvedKey (old : Manifest) (releases : List BoardRelease) (looked : List Lookup)
    (key : EntryKey) : Prop :=
  ∃ version firmware, Resolved (boardScan old releases looked key.buildTarget) key.model
    version firmware

/-- An operating-system entry of a reconciled manifest is that of a retained model. -/
def RetainedOs (old : Manifest) (releases : List BoardRelease) (looked : List Lookup)
    (entry : VersionEntry) : Prop :=
  ∃ firmware, Retained old (boardScan old releases looked entry.key.buildTarget) entry.key.model
    entry.version firmware

/-- A firmware entry of a reconciled manifest is that of a retained model. -/
def RetainedFirmware (old : Manifest) (releases : List BoardRelease) (looked : List Lookup)
    (entry : VersionEntry) : Prop :=
  ∃ version, Retained old (boardScan old releases looked entry.key.buildTarget) entry.key.model
    version entry.version

/-- What a check of a reconciled manifest comes to. Unless it is told to stop there is a
report, and what the report says, apart from names with capital letters, is said of
entries of retained models and not of resolved ones. The check of an entry of a resolved
model asks only whether to stop. -/
structure Clears (old : Manifest) (releases : List BoardRelease) (looked : List Lookup)
    (manifest : Manifest) (host : Host τ) (session : Session τ) : Prop where
  reports : ((Deep.validate manifest).perform host session).1 = .error .cancelled ∨
    ∃ report left, (Deep.validate manifest).perform host session = (.ok report, left) ∧
      Deep.Blames manifest
        (fun entry => RetainedOs old releases looked entry ∧
          ¬ ResolvedKey old releases looked entry.key)
        (fun entry => RetainedFirmware old releases looked entry ∧
          ¬ ResolvedKey old releases looked entry.key) report
  traced : (Deep.validate manifest).exchanges host session =
    (Deep.trace host manifest session).flatMap (·.2)
  silent : ∀ entry exchanges, (entry, exchanges) ∈ Deep.trace host manifest session →
    ResolvedKey old releases looked entry.key →
    ∀ exchange ∈ exchanges, exchange.request = .stopped

/-- A retained entry is not that of a resolved model. -/
theorem not_resolvedKey_of_retained {looked : List Lookup} {entry : VersionEntry}
    (retained : RetainedOs old releases looked entry ∨ RetainedFirmware old releases looked entry) :
    ¬ ResolvedKey old releases looked entry.key := by
  rintro ⟨version, firmware, resolved⟩
  rcases retained with ⟨_, retained⟩ | ⟨_, retained⟩
  · exact resolved.not_retained retained
  · exact resolved.not_retained retained

section Reconciled

variable (reconciled : (reconcile old releases).perform host session = (.ok outcome, left))

include reconciled

/-- The outcome is assembled from what the lookups have, and each record that they have
found is kept. -/
theorem kept_of_reconcile :
    outcome = assemble old (scans host old releases session) ∧
      ∀ {buildTarget version record},
        (recordsOf (survey host old releases session) buildTarget).get? version = some record →
        left.reader.cache.get? buildTarget version = some record := by
  have succeeded : ((reconcile old releases).perform host session).1 = .ok outcome := by
    rw [reconciled]
  obtain ⟨_, assembled⟩ := (reconcile_ok_iff host old releases session outcome).mp succeeded
  have same := left_of_reconcile succeeded
  rw [reconciled] at same
  refine ⟨assembled, fun {buildTarget version record} found => ?_⟩
  rw [show left = _ from same]
  exact kept_of_lookups (record_iff_lookup.mp found)

/-- The reader that a reconciliation has left backs the entries of resolved models. -/
theorem backed_of_resolved {key : EntryKey} {version firmware : String}
    (resolved : Resolved (boardScan old releases (survey host old releases session)
      key.buildTarget) key.model version firmware) :
    Deep.Backed left.reader outcome.manifest key := by
  obtain ⟨rfl, kept⟩ := kept_of_reconcile reconciled
  obtain ⟨record, found, has⟩ := Option.bind_eq_some_iff.mp resolved.recorded
  refine ⟨version, record, ?_, kept found, ?_⟩
  · exact mem_cros_iff.mpr ⟨firmware, resolved.approves⟩
  · intro other present
    obtain ⟨chosen, _, _, decided⟩ := mem_firmware_iff.mp present
    cases resolved.approves.2.2.symm.trans decided
    exact has

/-- An operating-system entry that is not backed is that of a retained model. -/
theorem retainedOs_of_unbacked {entry : VersionEntry} (present : entry ∈ outcome.manifest.cros)
    (unbacked : ¬ Deep.Backed left.reader outcome.manifest entry.key) :
    RetainedOs old releases (survey host old releases session) entry := by
  obtain ⟨assembled, _⟩ := kept_of_reconcile reconciled
  rw [assembled] at present
  obtain ⟨firmware, approved⟩ := mem_cros_iff.mp present
  rcases approved_iff.mp approved.2.2 with resolved | retained
  · exact absurd (backed_of_resolved reconciled resolved) unbacked
  · exact ⟨firmware, retained⟩

/-- A firmware entry that is not backed is that of a retained model. -/
theorem retainedFirmware_of_unbacked {entry : VersionEntry}
    (present : entry ∈ outcome.manifest.firmware)
    (unbacked : ¬ Deep.Backed left.reader outcome.manifest entry.key) :
    RetainedFirmware old releases (survey host old releases session) entry := by
  obtain ⟨assembled, _⟩ := kept_of_reconcile reconciled
  rw [assembled] at present
  obtain ⟨version, approved⟩ := mem_firmware_iff.mp present
  rcases approved_iff.mp approved.2.2 with resolved | retained
  · exact absurd (backed_of_resolved reconciled resolved) unbacked
  · exact ⟨version, retained⟩

/-- A check of a reconciled manifest, with the reader that the reconciliation has left,
blames the entries of retained models only, and makes no download for an entry of a
resolved model. The archive may have become another one. -/
theorem reconcile_clears
    (plain : ∀ entry ∈ outcome.manifest.cros, ';' ∉ entry.key.buildTarget.toList)
    (later : Host τ) (run : Run τ) :
    Clears old releases (survey host old releases session) outcome.manifest later
      ⟨left.reader, run⟩ := by
  have distinct : (outcome.manifest.cros.map (·.key)).Nodup := by
    obtain ⟨rfl, _⟩ := kept_of_reconcile reconciled
    exact distinct_assemble.1
  constructor
  case reports =>
    rcases Deep.persists_validate later outcome.manifest ⟨left.reader, run⟩ with
      told | ⟨report, after, validated⟩
    · exact .inl told
    · refine .inr ⟨report, after, validated, ?_⟩
      apply (Deep.blames_of_validate distinct plain validated).mono
      · intro entry present unbacked
        have retained := retainedOs_of_unbacked reconciled present unbacked
        exact ⟨retained, not_resolvedKey_of_retained (.inl retained)⟩
      · intro entry present unbacked
        have retained := retainedFirmware_of_unbacked reconciled present unbacked
        exact ⟨retained, not_resolvedKey_of_retained (.inr retained)⟩
  case traced => exact Deep.exchanges_validate later outcome.manifest _
  case silent =>
    rintro entry exchanges traced ⟨version, firmware, resolved⟩
    exact Deep.silent_of_backed distinct plain traced (backed_of_resolved reconciled resolved)

end Reconciled

/-- A manifest with a model that keeps the version of its board, and another whose own
version is in the archive. -/
def keptAndFound : Manifest where
  cros := [.of "coral" "robo" "R80-12739.0.0", .of "nami" "" "R77-12371.52.22",
    .of "nami" "sona" "R80-12739.0.0"]
  firmware := [.of "nami" "sona" "Google_Nami.10775.108.0"]

/-- An archive with one record for each of the two boards. -/
def oneRecordEach : Shelf where
  objects := [
    ("gs://archive/coral-release/R80-12739.0.0/metadata.json",
      Shelf.record "coral" "robo" "Google_Coral.10068.113.0"),
    ("gs://archive/nami-release/R77-12371.52.22/metadata.json",
      Shelf.record "nami" "sona" "Google_Nami.8438.184.0")]

/-- The manifest that comes of it. -/
def keptAndResolved : Manifest where
  cros := [.of "coral" "robo" "R80-12739.0.0", .of "nami" "sona" "R77-12371.52.22"]
  firmware := [.of "coral" "robo" "Google_Coral.10068.113.0",
    .of "nami" "sona" "Google_Nami.10775.108.0"]

theorem assemble_keptAndFound :
    assemble keptAndFound (scans oneRecordEach.host keptAndFound [] .fresh) =
      { manifest := keptAndResolved } := by
  have decides : (scans oneRecordEach.host keptAndFound [] .fresh).flatMap
        (decisions keptAndFound) =
      [(⟨"coral", "robo"⟩, .approved "R80-12739.0.0" "Google_Coral.10068.113.0"),
        (⟨"nami", "sona"⟩, .approved "R77-12371.52.22" "Google_Nami.10775.108.0")] := by
    decide +kernel
  have ordered (entries : List VersionEntry)
      (inOrder : entries.Pairwise fun left right => left.mayPrecede right = true) :
      Manifest.sortEntries entries = entries :=
    List.mergeSort_of_pairwise inOrder
  simp only [assemble, decides, Manifest.sort, Manifest.mapSections]
  rw [ordered _ (by decide +kernel), ordered _ (by decide +kernel),
    ordered keptAndFound.faft List.Pairwise.nil]
  rfl

theorem reconcile_clears_keptAndFound :
    ∃ left, (reconcile keptAndFound []).perform oneRecordEach.host .fresh =
        (.ok { manifest := keptAndResolved }, left) ∧
      (∀ entry ∈ keptAndResolved.cros, ';' ∉ entry.key.buildTarget.toList) ∧
      Clears keptAndFound [] (survey oneRecordEach.host keptAndFound [] .fresh) keptAndResolved
        (Shelf.host {}) ⟨left.reader, Run.start ()⟩ := by
  have succeeded := reconcile_on_shelf oneRecordEach keptAndFound []
  rw [assemble_keptAndFound] at succeeded
  generalize performed : (reconcile keptAndFound []).perform oneRecordEach.host .fresh = result
    at succeeded
  obtain ⟨_, left⟩ := result
  cases succeeded
  have plain : ∀ entry ∈ keptAndResolved.cros, ';' ∉ entry.key.buildTarget.toList := by
    simp [keptAndResolved, VersionEntry.of]
  exact ⟨left, rfl, plain, reconcile_clears performed plain (Shelf.host {}) (Run.start ())⟩

end StableFleet.Reconcile
