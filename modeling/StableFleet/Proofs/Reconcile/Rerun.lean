import StableFleet.Proofs.Reconcile.OnRecord
import StableFleet.Proofs.Reconcile.Served

/-!
# Reconciling a second time

A second reconciliation starts from the manifest that the first has made, with the same
feed and an archive that has stayed as it is. It looks up no build that the first has not
looked up, so it has a result; and a resolved model is resolved again, since its best
version, now on record, is still its best.

Other models need not stay as they are. A model that was left out no longer has the version
that kept it from being resolved, so it may be resolved now. A model that was retained has
the version of its board on record now, and its best version may be a different one; and
its board may have lost the version that the model fell back to, or the only record that
names the model. The second manifest is the first one exactly when no model left out can be
resolved and every retained model stays.
-/

namespace StableFleet.Reconcile

section First

variable {old : Manifest} {releases : List BoardRelease} {looked : List Lookup}
  {manifest : Manifest}

/-- A version that a model is approved with is one that its board refers to, unless it is
empty. -/
theorem Approves.relevant {device : BoardModel} {version firmware : String}
    (approved : Approves old releases looked device version firmware) (given : version ≠ "") :
    version ∈ (versionsOf old releases device.buildTarget).relevant := by
  rcases approved_iff.mp approved.2.2 with resolved | retained
  · exact BoardVersions.best?_mem_relevant resolved.best
  · refine BoardVersions.mem_relevant_iff.mpr ⟨given, .inr ?_⟩
    rcases retained.version with ⟨_, ofBoard⟩ | ⟨_, own⟩
    · exact .inl ofBoard
    · exact .inr ⟨_, own⟩

/-- A model without a name is not approved with the empty version. -/
theorem Approves.nonempty {device : BoardModel} {version firmware : String}
    (approved : Approves old releases looked device version firmware)
    (unnamed : device.model = "") : version ≠ "" := by
  rcases approved_iff.mp approved.2.2 with resolved | retained
  · exact (BoardVersions.mem_relevant_iff.mp (BoardVersions.best?_mem_relevant resolved.best)).1
  · rcases retained.version with ⟨given, ofBoard⟩ | ⟨_, own⟩
    · rw [ofBoard]
      exact given
    · rw [unnamed] at own
      cases (perModel_versionsOf_empty old releases device.buildTarget).symm.trans own

variable (records : Records old releases looked manifest)

include records

/-- The version that a reconciled manifest has for a board is that of its model without a
name. -/
theorem Records.legacy {buildTarget version : String} (given : version ≠ "") :
    (versionsOf manifest releases buildTarget).legacy = version ↔
      ∃ firmware, Approves old releases looked ⟨buildTarget, ""⟩ version firmware := by
  rw [legacy_of_distinct records.distinct, ← records.os ⟨buildTarget, ""⟩ version]
  cases manifest.osFor? buildTarget "" with
  | none => simpa using given.symm
  | some other => simp

/-- The version that a reconciled manifest has for a model itself is that which it was
approved with. -/
theorem Records.perModel {buildTarget model version : String} :
    (versionsOf manifest releases buildTarget).perModel.get? model = some version ↔
      model ≠ "" ∧ ∃ firmware, Approves old releases looked ⟨buildTarget, model⟩ version
        firmware := by
  by_cases unnamed : model = ""
  · subst unnamed
    rw [perModel_versionsOf_empty]
    simp
  · rw [perModel_of_distinct records.distinct _ _ unnamed]
    exact (records.os ⟨buildTarget, model⟩ version).trans (and_iff_right unnamed).symm

/-- A reconciled manifest refers to no version that the old manifest and the feed did not
refer to. -/
theorem Records.relevant {buildTarget version : String}
    (relevant : version ∈ (versionsOf manifest releases buildTarget).relevant) :
    version ∈ (versionsOf old releases buildTarget).relevant := by
  obtain ⟨given, known⟩ := BoardVersions.mem_relevant_iff.mp relevant
  rcases known with ofFeed | ofBoard | ⟨model, own⟩
  · rw [released_versionsOf _ old] at ofFeed
    exact BoardVersions.mem_relevant_iff.mpr ⟨given, .inl ofFeed⟩
  · obtain ⟨firmware, approved⟩ := (records.legacy given).mp ofBoard.symm
    exact approved.relevant given
  · obtain ⟨_, firmware, approved⟩ := records.perModel.mp own
    exact approved.relevant given

/-- The version on record for an approved model is that which it was approved with. -/
theorem Records.pinned {device : BoardModel} {version firmware : String}
    (approved : Approves old releases looked device version firmware) :
    (versionsOf manifest releases device.buildTarget).pinned device.model = version :=
  pinned_of_osFor? records.distinct ((records.os device version).mpr ⟨firmware, approved⟩)

/-- The best version of a resolved model is still its best. -/
theorem Records.best {device : BoardModel} {version firmware : String}
    (approved : Approves old releases looked device version firmware)
    (best : (versionsOf old releases device.buildTarget).best? device.model = some version) :
    (versionsOf manifest releases device.buildTarget).best? device.model = some version :=
  BoardVersions.best?_of_pinned best (released_versionsOf _ _ _ _) (records.pinned approved)

end First

/-- A retained model stays as it is in a second reconciliation: either the archive has its
firmware at its version, which is its best version now; or the archive has no firmware for
it at its best version but at some version that its board refers to, and its board has no
other version to fall back to. -/
def Stays (archive : String → String → Option String) (versions : BoardVersions)
    (model version firmware : String) : Prop :=
  ∃ best, versions.best? model = some best ∧
    ((best = version ∧ archive best model = some firmware) ∨
      (archive best model = none ∧
        (∃ other ∈ versions.relevant, (archive other model).isSome = true) ∧
        (versions.legacy = "" ∨ versions.legacy = version)))

/-- Nothing is left for a second reconciliation to change: it cannot resolve a model that
was left out, and every model that was retained stays as it is. What the archive has is
given by the build target, the version and the model. -/
structure Settled (archive : String → String → String → Option String) (old : Manifest)
    (releases : List BoardRelease) (looked : List Lookup) (manifest : Manifest) : Prop where
  leftOut : ∀ (device : BoardModel) best, device.buildTarget ≠ "" →
    manifest.osFor? device.buildTarget device.model = none →
    (versionsOf manifest releases device.buildTarget).best? device.model = some best →
    archive device.buildTarget best device.model = none
  retained : ∀ (device : BoardModel) version firmware,
    Approves old releases looked device version firmware →
    Retained old (boardScan old releases looked device.buildTarget) device.model version firmware →
    Stays (archive device.buildTarget) (versionsOf manifest releases device.buildTarget)
      device.model version firmware

section Second

variable {σ τ : Type} {host : Host σ} {holdings : Holdings} {old : Manifest}
  {releases : List BoardRelease} {session : Session σ} {later : Host τ} {again : Session τ}
  {manifest : Manifest}

/-- A second reconciliation in a calm archive is undisturbed: it looks up builds that the
first has looked up. -/
theorem undisturbed_again (serves : host.Serves session.reader.backend holdings)
    (faithful : session.reader.Faithful holdings)
    (undisturbed : Undisturbed (survey host old releases session))
    (serves' : later.Serves again.reader.backend holdings)
    (faithful' : again.reader.Faithful holdings) (calm : later.Calm again.reader.backend)
    (untold : again.run.stopped = false) (root : again.reader.root = session.reader.root)
    (records : Records old releases (survey host old releases session) manifest) :
    Undisturbed (survey later manifest releases again) := by
  apply undisturbed_of_calm serves' faithful' calm untold
  intro build asked told
  obtain ⟨named, relevant⟩ := mem_builds_iff.mp asked
  obtain ⟨answer, present⟩ := lookup_of_relevant host session named (records.relevant relevant)
  have answered := (answer_of_lookups serves faithful present).resolve_left
    (undisturbed _ present)
  have recorded : session.reader.recordIn holdings build.1 build.2 = .error .cancelled := by
    rw [← told, ArchiveReader.recordIn, ArchiveReader.recordIn, ArchiveReader.metadataPath,
      ArchiveReader.metadataPath, root]
  rw [recorded] at answered
  exact undisturbed _ present answered

section Again

variable (serves : host.Serves session.reader.backend holdings)
  (faithful : session.reader.Faithful holdings)
  (undisturbed : Undisturbed (survey host old releases session))
  (serves' : later.Serves again.reader.backend holdings)
  (faithful' : again.reader.Faithful holdings)
  (undisturbed' : Undisturbed (survey later manifest releases again))
  (root : again.reader.root = session.reader.root)
  (records : Records old releases (survey host old releases session) manifest)
  {device : BoardModel} {version firmware : String}

include serves' faithful' undisturbed' root

/-- A model is resolved the second time when the archive has firmware for it at its best
version. -/
theorem resolved_again (firmware : String) (named : device.buildTarget ≠ "")
    (best : (versionsOf manifest releases device.buildTarget).best? device.model = some version) :
    Resolved (boardScan manifest releases (survey later manifest releases again)
        device.buildTarget) device.model version firmware ↔
      session.reader.firmwareIn holdings device.buildTarget version device.model =
        some firmware := by
  have recorded := firmware_of_best serves' faithful' undisturbed' named best
  rw [ArchiveReader.firmwareIn_eq root] at recorded
  constructor
  · rintro ⟨_, found⟩
    exact recorded.symm.trans found
  · intro has
    exact ⟨best, recorded.trans has⟩

include serves faithful undisturbed records

/-- A resolved model is approved again with the same version and firmware. -/
theorem approves_again
    (approved : Approves old releases (survey host old releases session) device version firmware)
    (resolved : Resolved (boardScan old releases (survey host old releases session)
      device.buildTarget) device.model version firmware) :
    Approves manifest releases (survey later manifest releases again) device version firmware := by
  have recorded := firmware_of_best serves faithful undisturbed approved.1 resolved.best
  have again := (resolved_again serves' faithful' undisturbed' root firmware approved.1
    (records.best approved resolved.best)).mpr (recorded.symm.trans resolved.recorded)
  exact again.approves

omit serves faithful undisturbed

/-- An approved model is approved again with the same version and firmware exactly when
it stays. -/
theorem approves_again_iff
    (approved : Approves old releases (survey host old releases session) device version firmware) :
    Approves manifest releases (survey later manifest releases again) device version firmware ↔
      Stays (session.reader.firmwareIn holdings device.buildTarget)
        (versionsOf manifest releases device.buildTarget) device.model version firmware := by
  have resolves (best firmware : String)
      (found : (versionsOf manifest releases device.buildTarget).best? device.model = some best) :=
    resolved_again serves' faithful' undisturbed' root firmware approved.1 found
  have recorded (best : String)
      (found : (versionsOf manifest releases device.buildTarget).best? device.model = some best) :
      ((recordsOf (survey later manifest releases again) device.buildTarget).get? best).bind
        (·.get? device.model) =
        session.reader.firmwareIn holdings device.buildTarget best device.model := by
    rw [firmware_of_best serves' faithful' undisturbed' approved.1 found,
      ArchiveReader.firmwareIn_eq root]
  have named : device.model ∈ models (boardScan manifest releases
      (survey later manifest releases again) device.buildTarget) ↔
      ∃ version ∈ (versionsOf manifest releases device.buildTarget).relevant,
        (session.reader.firmwareIn holdings device.buildTarget version device.model).isSome =
          true := by
    simpa only [ArchiveReader.firmwareIn_eq root] using
      mem_models_iff serves' faithful' undisturbed' approved.1
  constructor
  · intro approved'
    rcases approved_iff.mp approved'.2.2 with resolved | ⟨⟨best, found, unrecorded⟩, _, choice⟩
    · exact ⟨version, resolved.best,
        .inl ⟨rfl, (resolves version firmware resolved.best).mp resolved⟩⟩
    · refine ⟨best, found, .inr ⟨?_, named.mp approved'.2.1, ?_⟩⟩
      · exact (recorded best found).symm.trans unrecorded
      · rcases choice with ⟨_, ofBoard⟩ | ⟨none, _⟩
        · exact .inr ofBoard.symm
        · exact .inl none
  · rintro ⟨best, found, ⟨rfl, has⟩ | ⟨unrecorded, names, board⟩⟩
    · exact ((resolves best firmware found).mpr has).approves
    · refine ⟨approved.1, named.mpr names, approved_iff.mpr (.inr ⟨⟨best, found, ?_⟩, ?_, ?_⟩)⟩
      · exact (recorded best found).trans unrecorded
      · exact (records.firmware device firmware).mpr ⟨version, approved⟩
      · by_cases none : (versionsOf manifest releases device.buildTarget).legacy = ""
        · -- The model has a name: else its own version would be that of its board.
          refine .inr ⟨none, records.perModel.mpr ⟨fun unnamed => ?_, firmware, approved⟩⟩
          have given := approved.nonempty unnamed
          obtain ⟨buildTarget, model⟩ := device
          cases unnamed
          exact given (((records.legacy given).mpr ⟨firmware, approved⟩).symm.trans none)
        · exact .inl ⟨none, (board.resolve_left none).symm⟩

/-- A model that was left out is approved by a second reconciliation only if it is
resolved. -/
theorem resolved_of_leftOut
    (leftOut : manifest.osFor? device.buildTarget device.model = none)
    (approved : Approves manifest releases (survey later manifest releases again) device version
      firmware) :
    (versionsOf manifest releases device.buildTarget).best? device.model = some version ∧
      session.reader.firmwareIn holdings device.buildTarget version device.model =
        some firmware := by
  rcases approved_iff.mp approved.2.2 with resolved | retained
  · exact ⟨resolved.best, (resolved_again serves' faithful' undisturbed' root firmware approved.1
      resolved.best).mp resolved⟩
  · obtain ⟨before, first⟩ := (records.firmware device firmware).mp retained.firmware
    cases leftOut.symm.trans ((records.os device before).mpr ⟨firmware, first⟩)

include serves faithful undisturbed

/-- When the first reconciliation has left nothing to change, every approved model is
approved again with the same version and firmware. -/
theorem Settled.approves_again
    (settled : Settled (session.reader.firmwareIn holdings) old releases
      (survey host old releases session) manifest)
    (approved : Approves old releases (survey host old releases session) device version firmware) :
    Approves manifest releases (survey later manifest releases again) device version firmware := by
  rcases approved_iff.mp approved.2.2 with resolved | retained
  · exact Reconcile.approves_again serves faithful undisturbed serves' faithful' undisturbed' root
      records approved resolved
  · exact (approves_again_iff serves' faithful' undisturbed' root records approved).mpr
      (settled.retained device _ _ approved retained)

/-- The two reconciliations approve the same models with the same versions and firmware
exactly when the first has left nothing to change. -/
theorem approves_iff_settled :
    (∀ device version firmware,
        Approves old releases (survey host old releases session) device version firmware ↔
        Approves manifest releases (survey later manifest releases again) device version
          firmware) ↔
      Settled (session.reader.firmwareIn holdings) old releases
        (survey host old releases session) manifest := by
  constructor
  · intro same
    constructor
    case leftOut =>
      intro device best named absent found
      cases has : session.reader.firmwareIn holdings device.buildTarget best device.model with
      | none => rfl
      | some firmware =>
        have resolved := (resolved_again serves' faithful' undisturbed' root firmware named
          found).mpr has
        have before := (same device best firmware).mpr resolved.approves
        cases absent.symm.trans ((records.os device best).mpr ⟨firmware, before⟩)
    case retained =>
      intro device version firmware approved _
      exact (approves_again_iff serves' faithful' undisturbed' root records approved).mp
        ((same device version firmware).mp approved)
  · intro settled device version firmware
    refine ⟨settled.approves_again serves faithful undisturbed serves' faithful' undisturbed' root
      records, fun approved => ?_⟩
    cases onRecord : manifest.osFor? device.buildTarget device.model with
    | none =>
      obtain ⟨best, has⟩ := resolved_of_leftOut serves' faithful' undisturbed' root records
        onRecord approved
      cases (settled.leftOut device version approved.1 onRecord best).symm.trans has
    | some other =>
      obtain ⟨_, before⟩ := (records.os device other).mp onRecord
      have stays := settled.approves_again serves faithful undisturbed serves' faithful'
        undisturbed' root records before
      obtain ⟨rfl, rfl⟩ := stays.unique approved
      exact before

end Again

/-- A second reconciliation, with the same feed and an archive that has stayed as it is, has
a result. Every resolved model has the same entries in it, and its manifest is the first one
exactly when the first run has left nothing to change. -/
theorem reconcile_again (host : Host σ) (holdings : Holdings) (old : Manifest)
    (releases : List BoardRelease) (session : Session σ) (first : Reconciliation)
    (serves : host.Serves session.reader.backend holdings)
    (faithful : session.reader.Faithful holdings)
    (reconciled : ((reconcile old releases).perform host session).1 = .ok first)
    (later : Host τ) (again : Session τ) (serves' : later.Serves again.reader.backend holdings)
    (faithful' : again.reader.Faithful holdings) (calm : later.Calm again.reader.backend)
    (untold : again.run.stopped = false) (root : again.reader.root = session.reader.root) :
    ∃ second, ((reconcile first.manifest releases).perform later again).1 = .ok second ∧
      (∀ (key : EntryKey) version firmware,
        Resolved (boardScan old releases (survey host old releases session) key.buildTarget)
          key.model version firmware →
        ⟨key, version⟩ ∈ second.manifest.cros ∧ ⟨key, firmware⟩ ∈ second.manifest.firmware) ∧
      (second.manifest = first.manifest ↔
        Settled (session.reader.firmwareIn holdings) old releases
          (survey host old releases session) first.manifest) := by
  obtain ⟨undisturbed, same⟩ := (reconcile_ok_iff _ _ _ _ _).mp reconciled
  have records := records_assemble host old releases session
  rw [← same] at records
  have undisturbed' := undisturbed_again serves faithful undisturbed serves' faithful' calm untold
    root records
  refine ⟨_, (reconcile_ok_iff _ _ _ _ _).mpr ⟨undisturbed', rfl⟩, ?_, ?_⟩
  · rintro ⟨buildTarget, model⟩ version firmware resolved
    have approved := approves_again serves faithful undisturbed serves' faithful' undisturbed' root
      records resolved.approves resolved
    exact ⟨mem_cros_iff.mpr ⟨firmware, approved⟩, mem_firmware_iff.mpr ⟨version, approved⟩⟩
  · have faft : Manifest.sortEntries old.faft = Manifest.sortEntries first.manifest.faft := by
      rw [same]
      exact (Manifest.sortEntries_sortEntries old.faft).symm
    have settles := approves_iff_settled serves faithful undisturbed serves' faithful'
      undisturbed' root records
    rw [← settles, ← manifest_eq_iff faft, ← same]
    exact eq_comm

end Second

theorem reconcile_again_boardAndModel :
    ((reconcile boardAndModel []).perform boardRecord.host archiveSession).1 =
        .ok { manifest := boardKept } ∧
      ∃ second, ((reconcile boardKept []).perform boardRecord.host archiveSession).1 = .ok second ∧
        (∀ (key : EntryKey) version firmware,
          Resolved (boardScan boardAndModel []
            (survey boardRecord.host boardAndModel [] archiveSession) key.buildTarget) key.model
            version firmware →
          ⟨key, version⟩ ∈ second.manifest.cros ∧ ⟨key, firmware⟩ ∈ second.manifest.firmware) ∧
        (second.manifest = boardKept ↔
          Settled (archiveSession.reader.firmwareIn boardRecord.object) boardAndModel []
            (survey boardRecord.host boardAndModel [] archiveSession) boardKept) :=
  ⟨reconcile_boardAndModel, reconcile_again boardRecord.host boardRecord.object boardAndModel []
    archiveSession _ (boardRecord.serves _) (ArchiveReader.faithful_of_empty rfl _)
    reconcile_boardAndModel boardRecord.host archiveSession (boardRecord.serves _)
    (ArchiveReader.faithful_of_empty rfl _) (boardRecord.calm _) rfl rfl⟩

/-- A manifest with a version of a model that is not in the archive. -/
def unrecordedVersion : Manifest where
  cros := [.of "nami" "sona" "R90-13816.64.0"]

/-- A feed with a smaller version for the board of that model. -/
def smallerRelease : List BoardRelease := [⟨"nami", "R85-13310.91.0"⟩]

/-- An archive that has firmware of that model at the version of the feed. -/
def releaseRecord : Shelf where
  objects := [("gs://archive/nami-release/R85-13310.91.0/metadata.json",
    Shelf.record "nami" "sona" "Google_Nami.10775.108.0")]

/-- The manifest that comes of it the second time. -/
def releaseFound : Manifest where
  cros := [.of "nami" "sona" "R85-13310.91.0"]
  firmware := [.of "nami" "sona" "Google_Nami.10775.108.0"]

/-- The model is left out the first time and with it its version, so it is resolved at the
version of the feed the second time. -/
theorem reconcile_again_changes :
    ∃ first second,
      ((reconcile unrecordedVersion smallerRelease).perform releaseRecord.host .fresh).1 =
        .ok first ∧
      ((reconcile first.manifest smallerRelease).perform releaseRecord.host .fresh).1 =
        .ok second ∧
      second.manifest ≠ first.manifest :=
  ⟨{ novel := [⟨"nami", "sona"⟩] }, { manifest := releaseFound },
    eq_ok_of_toOption (by decide +kernel), eq_ok_of_toOption (by decide +kernel), by decide⟩

end StableFleet.Reconcile
