import StableFleet.Proofs.Reconcile.Answers
import StableFleet.Proofs.Reconcile.Boards

/-!
# Boards do not interfere with each other

Two reconciliations whose inputs agree on a board come to the same on that board: on its
entries, on its new models and on its models without a version. Their inputs may differ on
every other board, and so may the answers that they are given for other boards, failures
and malformed records among them.

A reader that has kept nothing downloads each build that a reconciliation refers to, once.
So the records of the board come of the downloads of its own builds, and its scan is the
same in both runs; and the decisions about its models are made of its scan alone.
-/

namespace StableFleet

/-- Two reconciliations are given the same of a board: the same entries and the same
releases, in the same order. -/
structure AgreeOn (buildTarget : String) (old new : Manifest)
    (releases releases' : List BoardRelease) : Prop where
  cros : (old.cros.filter fun entry => entry.key.buildTarget = buildTarget) =
    new.cros.filter fun entry => entry.key.buildTarget = buildTarget
  firmware : (old.firmware.filter fun entry => entry.key.buildTarget = buildTarget) =
    new.firmware.filter fun entry => entry.key.buildTarget = buildTarget
  releases : (releases.filter fun release => release.buildTarget = buildTarget) =
    releases'.filter fun release => release.buildTarget = buildTarget

/-- Two readers are given the same answers for a board: whenever both download the record of
the same version of the board, they have the same answer. -/
def SameAnswers (buildTarget : String) (reader reader' : ArchiveReader)
    (exchanges exchanges' : List Exchange) : Prop :=
  ∀ version answer answer', reader.downloadWith buildTarget version answer ∈ exchanges →
    reader'.downloadWith buildTarget version answer' ∈ exchanges' → answer = answer'

/-- It does not matter which of the readers comes first. -/
theorem SameAnswers.symm {buildTarget : String} {reader reader' : ArchiveReader}
    {exchanges exchanges' : List Exchange}
    (same : SameAnswers buildTarget reader reader' exchanges exchanges') :
    SameAnswers buildTarget reader' reader exchanges' exchanges :=
  fun version answer answer' first second => (same version answer' answer second first).symm

/-- Two reconciliations come to the same on a board: the same entries in both sections, the
same new models and the same models without a version, in the same order. -/
structure SameOn (buildTarget : String) (outcome outcome' : Reconciliation) : Prop where
  cros : (outcome.manifest.cros.filter fun entry => entry.key.buildTarget = buildTarget) =
    outcome'.manifest.cros.filter fun entry => entry.key.buildTarget = buildTarget
  firmware : (outcome.manifest.firmware.filter fun entry => entry.key.buildTarget = buildTarget) =
    outcome'.manifest.firmware.filter fun entry => entry.key.buildTarget = buildTarget
  novel : (outcome.novel.filter fun device => device.buildTarget = buildTarget) =
    outcome'.novel.filter fun device => device.buildTarget = buildTarget
  invalid : (outcome.invalid.filter fun device => device.buildTarget = buildTarget) =
    outcome'.invalid.filter fun device => device.buildTarget = buildTarget

namespace Reconcile

/-- Decisions about a board are made of its scan and of the firmware on record for it. -/
theorem decisions_eq {old new : Manifest} {scan : BoardScan}
    (same : ∀ model, old.firmwareFor? scan.buildTarget model =
      new.firmwareFor? scan.buildTarget model) : decisions old scan = decisions new scan := by
  apply List.map_congr_left
  intro model _
  rw [decide, decide, fallback?, fallback?, same]

section Board

variable {buildTarget : String}

/-- The entries that are made of the decisions about a board are those of the board, in
order. -/
theorem filter_entries {entryOf : BoardModel × ModelOutcome → Option VersionEntry}
    (made : ∀ decision entry, entryOf decision = some entry →
      entry.key.buildTarget = decision.1.buildTarget)
    (decided : List (BoardModel × ModelOutcome)) :
    (Manifest.sortEntries (decided.filterMap entryOf)).filter
        (fun entry => entry.key.buildTarget = buildTarget) =
      Manifest.sortEntries ((decided.filter
        fun decision => decision.1.buildTarget = buildTarget).filterMap entryOf) := by
  rw [Manifest.filter_sortEntries, List.filter_filterMap, List.filterMap_filter]
  congr 2
  funext decision
  cases found : entryOf decision with
  | none => simp
  | some entry =>
    rw [← made decision entry found]
    by_cases here : entry.key.buildTarget = buildTarget <;> simp [here, Option.filter]

/-- The devices with an outcome, of a board, are those that are decided so among the
decisions about the board. -/
theorem filter_withOutcome (outcome : ModelOutcome) (decided : List (BoardModel × ModelOutcome)) :
    (withOutcome outcome decided).filter (fun device => device.buildTarget = buildTarget) =
      withOutcome outcome
        (decided.filter fun decision => decision.1.buildTarget = buildTarget) := by
  rw [withOutcome, withOutcome, List.filter_map, List.filter_filter, List.filter_filter]
  congr 2
  funext decision
  exact Bool.and_comm _ _

/-- What an assembled outcome has on a board is made of the decisions about the board. -/
theorem sameOn_assemble {old new : Manifest} {scans scans' : List BoardScan}
    (same : (decided old scans).filter (fun decision => decision.1.buildTarget = buildTarget) =
      (decided new scans').filter fun decision => decision.1.buildTarget = buildTarget) :
    SameOn buildTarget (assemble old scans) (assemble new scans') := by
  have os (decision : BoardModel × ModelOutcome) (entry : VersionEntry)
      (found : osEntry? decision = some entry) :
      entry.key.buildTarget = decision.1.buildTarget := by
    obtain ⟨_, outcome⟩ := decision
    cases outcome <;> cases found
    rfl
  have kept (decision : BoardModel × ModelOutcome) (entry : VersionEntry)
      (found : firmwareEntry? decision = some entry) :
      entry.key.buildTarget = decision.1.buildTarget := by
    obtain ⟨_, outcome⟩ := decision
    cases outcome <;> cases found
    rfl
  constructor
  case cros => exact (filter_entries os _).trans (same ▸ (filter_entries os _).symm)
  case firmware => exact (filter_entries kept _).trans (same ▸ (filter_entries kept _).symm)
  case novel => exact (filter_withOutcome _ _).trans (same ▸ (filter_withOutcome _ _).symm)
  case invalid => exact (filter_withOutcome _ _).trans (same ▸ (filter_withOutcome _ _).symm)

end Board

section Isolation

variable {σ τ : Type} {host : Host σ} {host' : Host τ} {old new : Manifest}
  {releases releases' : List BoardRelease} {session : Session σ} {session' : Session τ}
  {outcome outcome' : Reconciliation} {buildTarget : String}

/-- With a reader that has kept nothing, a lookup of a reconciliation is answered by a
download of its own. -/
theorem download_of_survey (fresh : session.reader.cache = .empty)
    (reconciled : ((reconcile old releases).perform host session).1 = .ok outcome)
    {lookup : Lookup} (present : lookup ∈ survey host old releases session) :
    ∃ answer, session.reader.downloadWith lookup.buildTarget lookup.version answer ∈
        (reconcile old releases).exchanges host session ∧
      lookup.answer = (answer.bind (Metadata.parse lookup.buildTarget)).mapError
        (ArchiveReader.reportFetch lookup.buildTarget lookup.version) := by
  obtain ⟨undisturbed, _⟩ := (reconcile_ok_iff host old releases session outcome).mp reconciled
  rw [exchanges_reconcile reconciled]
  refine download_of_lookups (builds_nodup (BoardVersions.collect old releases).ascending) ?_
    undisturbed present
  intro build _
  rw [fresh]
  rfl

/-- A record of a board that one run finds is found by the other. -/
theorem found_of_found (agree : versionsOf old releases buildTarget =
      versionsOf new releases' buildTarget)
    (fresh : session.reader.cache = .empty) (fresh' : session'.reader.cache = .empty)
    (reconciled : ((reconcile old releases).perform host session).1 = .ok outcome)
    (reconciled' : ((reconcile new releases').perform host' session').1 = .ok outcome')
    (answers : SameAnswers buildTarget session.reader session'.reader
      ((reconcile old releases).exchanges host session)
      ((reconcile new releases').exchanges host' session'))
    {version : String} {record : ModelFirmware}
    (found : ⟨buildTarget, version, .ok record⟩ ∈ survey host old releases session) :
    ⟨buildTarget, version, .ok record⟩ ∈ survey host' new releases' session' := by
  obtain ⟨named, relevant⟩ := mem_builds_iff.mp (build_of_lookups found)
  obtain ⟨answer', present⟩ := lookup_of_relevant host' session' named (agree ▸ relevant)
  obtain ⟨bytes, downloaded, answered⟩ := download_of_survey fresh reconciled found
  obtain ⟨bytes', downloaded', answered'⟩ := download_of_survey fresh' reconciled' present
  cases answers version bytes bytes' downloaded downloaded'
  rw [show Except.ok record = answer' from answered.trans answered'.symm]
  exact present

/-- Two runs that refer to the same versions of a board, and are given the same answers for
it, have the same scan of the board. -/
theorem boardScan_eq (versions : versionsOf old releases buildTarget =
      versionsOf new releases' buildTarget)
    (fresh : session.reader.cache = .empty) (fresh' : session'.reader.cache = .empty)
    (reconciled : ((reconcile old releases).perform host session).1 = .ok outcome)
    (reconciled' : ((reconcile new releases').perform host' session').1 = .ok outcome')
    (answers : SameAnswers buildTarget session.reader session'.reader
      ((reconcile old releases).exchanges host session)
      ((reconcile new releases').exchanges host' session')) :
    boardScan old releases (survey host old releases session) buildTarget =
      boardScan new releases' (survey host' new releases' session') buildTarget := by
  have records : recordsOf (survey host old releases session) buildTarget =
      recordsOf (survey host' new releases' session') buildTarget := by
    apply Table.ext
    intro version
    apply Option.ext
    intro record
    refine record_iff_lookup.trans (Iff.trans ⟨?_, ?_⟩ record_iff_lookup.symm)
    · exact found_of_found versions fresh fresh' reconciled reconciled' answers
    · exact found_of_found versions.symm fresh' fresh reconciled' reconciled answers.symm
  rw [boardScan, boardScan, versions, records]

/-- Two reconciliations that agree on a board, and are given the same answers for it, come
to the same on that board. -/
theorem reconcile_isolates (agree : AgreeOn buildTarget old new releases releases')
    (fresh : session.reader.cache = .empty) (fresh' : session'.reader.cache = .empty)
    (reconciled : ((reconcile old releases).perform host session).1 = .ok outcome)
    (reconciled' : ((reconcile new releases').perform host' session').1 = .ok outcome')
    (answers : SameAnswers buildTarget session.reader session'.reader
      ((reconcile old releases).exchanges host session)
      ((reconcile new releases').exchanges host' session')) :
    SameOn buildTarget outcome outcome' := by
  have versions : versionsOf old releases buildTarget = versionsOf new releases' buildTarget := by
    rw [versionsOf_eq, versionsOf_eq, agree.cros, agree.releases]
  have scan := boardScan_eq versions fresh fresh' reconciled reconciled' answers
  have firmware (model : String) :
      old.firmwareFor? buildTarget model = new.firmwareFor? buildTarget model := by
    rw [Manifest.firmwareFor?, Manifest.firmwareFor?, ← Manifest.versionFor?_filter, agree.firmware,
      Manifest.versionFor?_filter]
  obtain ⟨_, rfl⟩ := (reconcile_ok_iff _ _ _ _ _).mp reconciled
  obtain ⟨_, rfl⟩ := (reconcile_ok_iff _ _ _ _ _).mp reconciled'
  apply sameOn_assemble
  rw [filter_decided, filter_decided, scan, decisions_eq firmware]

/-- Archives that stay as they are, and have the same at the places of a board, give the
same answers for it. -/
theorem sameAnswers_of_serves {holdings holdings' : Holdings}
    (serves : host.Serves session.reader.backend holdings)
    (serves' : host'.Serves session'.reader.backend holdings')
    (same : ∀ version, holdings (session.reader.metadataPath buildTarget version) =
      holdings' (session'.reader.metadataPath buildTarget version)) :
    SameAnswers buildTarget session.reader session'.reader
      ((reconcile old releases).exchanges host session)
      ((reconcile new releases').exchanges host' session') := by
  intro version answer answer' first second
  exact (serves.answer first).trans ((same version).trans (serves'.answer second).symm)

end Isolation

/-- A manifest with a board and another one that the archive has no record of. -/
def besideAtlas : Manifest where
  cros := [.of "atlas" "" "R90-13816.64.0", .of "nami" "" "R77-12371.52.22"]

/-- A manifest with the same board and yet another one. -/
def besideCoral : Manifest where
  cros := [.of "nami" "" "R77-12371.52.22", .of "coral" "robo" "R80-12739.0.0"]
  firmware := [.of "coral" "robo" "Google_Coral.10068.113.0"]

/-- An archive with a record of that board. -/
def namiRecord : Shelf where
  objects := [("gs://archive/nami-release/R77-12371.52.22/metadata.json",
    Shelf.record "nami" "sona" "Google_Nami.8438.184.0")]

/-- The archive with a malformed record of the other board. -/
def coralMalformed : Shelf where
  objects := ("gs://archive/coral-release/R80-12739.0.0/metadata.json", Bytes.ofText "[") ::
    namiRecord.objects

theorem reconcile_isolates_nami :
    ∃ outcome outcome',
      ((reconcile besideAtlas []).perform namiRecord.host .fresh).1 = .ok outcome ∧
      ((reconcile besideCoral []).perform coralMalformed.host .fresh).1 = .ok outcome' ∧
      SameOn "nami" outcome outcome' := by
  have same (version : String) :
      namiRecord.object (Session.fresh.reader.metadataPath "nami" version) =
        coralMalformed.object (Session.fresh.reader.metadataPath "nami" version) := by
    have other : Session.fresh.reader.metadataPath "nami" version ≠
        "gs://archive/coral-release/R80-12739.0.0/metadata.json" := by
      intro equal
      -- The boards' names differ in their first letter, which both places have after the root.
      have letters := congrArg (fun place => (place.toList.drop 13).head?) equal
      simp [Session.fresh, ArchiveReader.new, ArchiveReader.metadataPath] at letters
    rw [Shelf.object, Shelf.object, coralMalformed, List.lookup_cons, beq_false_of_ne other]
  have first := reconcile_on_shelf namiRecord besideAtlas []
  have second := reconcile_on_shelf coralMalformed besideCoral []
  refine ⟨_, _, first, second, ?_⟩
  exact reconcile_isolates ⟨by decide, by decide, rfl⟩ rfl rfl first second
    (sameAnswers_of_serves (namiRecord.serves _) (coralMalformed.serves _) same)

end Reconcile

end StableFleet
