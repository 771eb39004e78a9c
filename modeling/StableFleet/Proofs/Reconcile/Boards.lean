import StableFleet.Proofs.Manifest.Versions
import StableFleet.Proofs.Reconcile.Regression
import StableFleet.Proofs.Table.Lookup

/-!
# One board of a reconciliation

What a reconciliation decides about the models of a board comes of the scan of that
board: its versions, which are those of its own entries and releases, and its records,
which are those of its own lookups. So the decisions of a reconciliation fall into
those of single boards.

A model that is approved has either been resolved, with its best version and the
firmware that the record of that version has for it, or retained, with firmware from
the old manifest.
-/

namespace StableFleet

/-- The versions that a board refers to are those that are known of it. -/
theorem BoardVersions.mem_relevant_iff {versions : BoardVersions} {version : String} :
    version ∈ versions.relevant ↔ version ≠ "" ∧ (version = versions.released ∨
      version = versions.legacy ∨ ∃ model, versions.perModel.get? model = some version) := by
  have listed : version ∈ versions.relevant ↔ version ∈
      (versions.released :: versions.legacy :: versions.perModel.values).filter
        fun version => !version.isEmpty := TextSet.mem_ofList
  rw [listed, List.mem_filter, List.mem_cons, List.mem_cons, Table.mem_values_iff, and_comm]
  simp

namespace Reconcile

/-- The versions that operating-system entries have for their board. -/
def noted (entries : List VersionEntry) : BoardVersions :=
  entries.foldl (fun versions entry => BoardVersions.noteEntry entry versions) {}

/-- The version that the last of some releases has. -/
def lastReleased (releases : List BoardRelease) : String :=
  releases.foldl (fun _ release => release.version) ""

/-- Entries are noted without regard to the feed. -/
theorem released_noted (entries : List VersionEntry) : (noted entries).released = "" := by
  have keeps (versions : BoardVersions) :
      (entries.foldl (fun versions entry => BoardVersions.noteEntry entry versions)
        versions).released = versions.released := by
    induction entries generalizing versions with
    | nil => rfl
    | cons entry entries inductionHypothesis =>
      rw [List.foldl_cons, inductionHypothesis, BoardVersions.noteEntry]
      split
      · rfl
      · rfl
  exact keeps {}

/-- The versions of a board are those of its own entries and releases. -/
theorem versionsOf_eq (old : Manifest) (releases : List BoardRelease) (buildTarget : String) :
    versionsOf old releases buildTarget =
      { noted (old.cros.filter fun entry => entry.key.buildTarget = buildTarget) with
        released := lastReleased
          (releases.filter fun release => release.buildTarget = buildTarget) } := by
  -- A board that is not known yet has the versions that are not known.
  have known {ι : Type} (items : List ι) (note : ι → BoardVersions → BoardVersions)
      (known : Option BoardVersions) :
      (items.foldl (fun known item => some (note item (known.getD {}))) known).getD {} =
        items.foldl (fun versions item => note item versions) (known.getD {}) := by
    induction items generalizing known with
    | nil => rfl
    | cons item items inductionHypothesis => exact inductionHypothesis _
  have releasing (releases : List BoardRelease) (versions : BoardVersions) :
      releases.foldl (fun versions release => BoardVersions.noteRelease release versions)
          versions =
        ⟨releases.foldl (fun _ release => release.version) versions.released, versions.legacy,
          versions.perModel⟩ := by
    induction releases generalizing versions with
    | nil => rfl
    | cons release releases inductionHypothesis => exact inductionHypothesis _
  let note (boards : Table BoardVersions) (entry : VersionEntry) : Table BoardVersions :=
    boards.update entry.key.buildTarget fun known => BoardVersions.noteEntry entry (known.getD {})
  have entries := Table.get?_foldl_update (·.key.buildTarget)
    (fun entry known => BoardVersions.noteEntry entry (known.getD {})) old.cros Table.empty
    buildTarget
  have collected := Table.get?_foldl_update (·.buildTarget)
    (fun (release : BoardRelease) known => BoardVersions.noteRelease release (known.getD {}))
    releases (old.cros.foldl note Table.empty) buildTarget
  rw [versionsOf, BoardVersions.collect, collected, known, entries, known, releasing]
  exact congrArg (fun released : String => BoardVersions.mk
    (List.foldl (fun _ (release : BoardRelease) => release.version) released _) _ _)
    (released_noted _)

/-- The builds that a reconciliation looks up are those of the versions that a named board
refers to. -/
theorem mem_builds_iff {old : Manifest} {releases : List BoardRelease}
    {buildTarget version : String} :
    (buildTarget, version) ∈ builds (BoardVersions.collect old releases).toList ↔
      buildTarget ≠ "" ∧ version ∈ (versionsOf old releases buildTarget).relevant := by
  constructor
  · intro asked
    obtain ⟨⟨place, versions⟩, collected, rfl, named, relevant⟩ := board_of_builds asked
    refine ⟨named, ?_⟩
    rw [versionsOf, Table.mem_toList_iff.mp collected]
    exact relevant
  · rintro ⟨named, relevant⟩
    rw [versionsOf] at relevant
    cases known : (BoardVersions.collect old releases).get? buildTarget with
    | none =>
      rw [known] at relevant
      cases relevant
    | some versions =>
      rw [known] at relevant
      refine List.mem_flatMap.mpr ⟨(buildTarget, versions), List.mem_filter.mpr ⟨?_, ?_⟩, ?_⟩
      · exact Table.mem_toList_iff.mpr known
      · simpa using named
      · exact List.mem_map_of_mem relevant

/-- Each version that a named board refers to is looked up. -/
theorem lookup_of_relevant {σ : Type} {old : Manifest} {releases : List BoardRelease}
    {buildTarget version : String} (host : Host σ) (session : Session σ)
    (named : buildTarget ≠ "")
    (relevant : version ∈ (versionsOf old releases buildTarget).relevant) :
    ∃ answer, ⟨buildTarget, version, answer⟩ ∈ survey host old releases session :=
  lookup_of_build (mem_builds_iff.mpr ⟨named, relevant⟩)

/-- A record of a board is that of a version that the board, which has a name, refers to. -/
theorem relevant_of_record {σ : Type} {host : Host σ} {old : Manifest}
    {releases : List BoardRelease} {session : Session σ} {buildTarget version : String}
    {record : ModelFirmware}
    (found : (recordsOf (survey host old releases session) buildTarget).get? version =
      some record) :
    buildTarget ≠ "" ∧ version ∈ (versionsOf old releases buildTarget).relevant :=
  mem_builds_iff.mp (build_of_lookups (record_iff_lookup.mp found))

/-- What some lookups have on one board. -/
def boardScan (old : Manifest) (releases : List BoardRelease) (looked : List Lookup)
    (buildTarget : String) : BoardScan :=
  ⟨buildTarget, versionsOf old releases buildTarget, recordsOf looked buildTarget⟩

section Decided

variable {σ : Type} (host : Host σ) (old : Manifest) (releases : List BoardRelease)
  (session : Session σ)

/-- Nothing is decided about a board that is neither in the manifest nor in the feed. -/
theorem models_of_unnamed {buildTarget : String}
    (unknown : (BoardVersions.collect old releases).get? buildTarget = none) :
    models (boardScan old releases (survey host old releases session) buildTarget) = [] := by
  refine List.eq_nil_iff_forall_not_mem.mpr fun model named => ?_
  obtain ⟨version, record, found, _⟩ := mem_models.mp named
  obtain ⟨⟨place, versions⟩, collected, same, _⟩ :=
    board_of_builds (build_of_lookups (record_iff_lookup.mp found))
  cases same
  rw [Table.mem_toList_iff.mp collected] at unknown
  cases unknown

/-- The decisions about the models of a scan are about its board. -/
theorem filter_decisions (scan : BoardScan) (buildTarget : String) :
    (decisions old scan).filter (fun decision => decision.1.buildTarget = buildTarget) =
      if scan.buildTarget = buildTarget then decisions old scan else [] := by
  by_cases here : scan.buildTarget = buildTarget
  · rw [if_pos here, List.filter_eq_self]
    rintro _ present
    obtain ⟨model, _, rfl⟩ := List.mem_map.mp present
    exact decide_eq_true here
  · rw [if_neg here, List.filter_eq_nil_iff]
    rintro _ present
    obtain ⟨model, _, rfl⟩ := List.mem_map.mp present
    exact fun same => here (of_decide_eq_true same)

/-- Of the decisions about some boards, those about one named board are made of what the
lookups have on it. -/
theorem filter_decided_scansOf (looked : List Lookup) (boards : List (String × BoardVersions))
    {buildTarget : String} (named : buildTarget ≠ "") :
    (decided old (scansOf looked boards)).filter
        (fun decision => decision.1.buildTarget = buildTarget) =
      boards.flatMap fun board =>
        if board.1 = buildTarget then
          decisions old ⟨buildTarget, board.2, recordsOf looked buildTarget⟩
        else [] := by
  rw [decided, scansOf, List.flatMap_map, List.filter_flatMap]
  induction boards with
  | nil => rfl
  | cons board boards inductionHypothesis =>
    rw [List.flatMap_cons, ← inductionHypothesis, List.filter_cons]
    by_cases here : board.1 = buildTarget
    · simp [here, named, filter_decisions]
    · rw [if_neg here]
      by_cases unnamed : board.1.isEmpty = true
      · simp [unnamed]
      · simp [unnamed, filter_decisions, here]

/-- Of the decisions of a reconciliation, those about a board are the ones that are made
of the scan of that board. -/
theorem filter_decided (buildTarget : String) :
    (decided old (scans host old releases session)).filter
        (fun decision => decision.1.buildTarget = buildTarget) =
      if buildTarget = "" then []
      else decisions old
        (boardScan old releases (survey host old releases session) buildTarget) := by
  by_cases empty : buildTarget = ""
  · rw [if_pos empty, List.filter_eq_nil_iff]
    intro decision present same
    obtain ⟨scan, scanned, about, _⟩ := mem_decided.mp present
    obtain ⟨board, listed, rfl⟩ := List.mem_map.mp scanned
    have named := (List.mem_filter.mp listed).2
    rw [show board.1 = "" from about.symm.trans ((of_decide_eq_true same).trans empty)] at named
    cases named
  · rw [if_neg empty, scans, filter_decided_scansOf _ _ _ empty,
      Table.flatMap_at _ _ fun versions =>
        decisions old ⟨buildTarget, versions,
          recordsOf (survey host old releases session) buildTarget⟩]
    cases known : (BoardVersions.collect old releases).get? buildTarget with
    | some versions =>
      have same : versionsOf old releases buildTarget = versions := by
        rw [versionsOf, known]
        rfl
      rw [boardScan, same]
      rfl
    | none =>
      rw [decisions, models_of_unnamed host old releases session known]
      rfl

/-- A reconciliation decides about a model of a named board as the scan of the board
has it. -/
theorem mem_decided_iff {device : BoardModel} {outcome : ModelOutcome} :
    (device, outcome) ∈ decided old (scans host old releases session) ↔
      device.buildTarget ≠ "" ∧
        device.model ∈ models
          (boardScan old releases (survey host old releases session) device.buildTarget) ∧
        decide old (boardScan old releases (survey host old releases session) device.buildTarget)
          device.model = outcome := by
  have own : (device, outcome) ∈ decided old (scans host old releases session) ↔
      (device, outcome) ∈ (decided old (scans host old releases session)).filter
        (fun decision => decision.1.buildTarget = device.buildTarget) := by
    simp
  rw [own, filter_decided]
  obtain ⟨buildTarget, model⟩ := device
  by_cases empty : buildTarget = ""
  · simp [empty]
  · rw [if_neg empty, decisions, List.mem_map]
    constructor
    · rintro ⟨other, named, same⟩
      cases same
      exact ⟨empty, named, rfl⟩
    · rintro ⟨_, named, rfl⟩
      exact ⟨model, named, rfl⟩

end Decided

/-- A reconciliation approves a model with a version and firmware. -/
def Approves (old : Manifest) (releases : List BoardRelease) (looked : List Lookup)
    (device : BoardModel) (version firmware : String) : Prop :=
  device.buildTarget ≠ "" ∧
    device.model ∈ models (boardScan old releases looked device.buildTarget) ∧
    decide old (boardScan old releases looked device.buildTarget) device.model =
      .approved version firmware

section Entries

variable {σ : Type} {host : Host σ} {old : Manifest} {releases : List BoardRelease}
  {session : Session σ} {entry : VersionEntry}

/-- The operating-system entries of a reconciled manifest are those of approved models. -/
theorem mem_cros_iff :
    entry ∈ (assemble old (scans host old releases session)).manifest.cros ↔
      ∃ firmware, Approves old releases (survey host old releases session) entry.device
        entry.version firmware := by
  rw [mem_cros_assemble]
  constructor
  · rintro ⟨scan, member, ofBoard, named, firmware, approved⟩
    exact ⟨firmware, (mem_decided_iff host old releases session).mp
      (mem_decided.mpr ⟨scan, member, ofBoard, named, approved.symm⟩)⟩
  · rintro ⟨firmware, approved⟩
    obtain ⟨scan, member, ofBoard, named, same⟩ :=
      mem_decided.mp ((mem_decided_iff host old releases session).mpr approved)
    exact ⟨scan, member, ofBoard, named, firmware, same.symm⟩

/-- The firmware entries of a reconciled manifest are those of approved models. -/
theorem mem_firmware_iff :
    entry ∈ (assemble old (scans host old releases session)).manifest.firmware ↔
      ∃ version, Approves old releases (survey host old releases session) entry.device
        version entry.version := by
  rw [mem_firmware_assemble]
  constructor
  · rintro ⟨scan, member, ofBoard, named, version, approved⟩
    exact ⟨version, (mem_decided_iff host old releases session).mp
      (mem_decided.mpr ⟨scan, member, ofBoard, named, approved.symm⟩)⟩
  · rintro ⟨version, approved⟩
    obtain ⟨scan, member, ofBoard, named, same⟩ :=
      mem_decided.mp ((mem_decided_iff host old releases session).mpr approved)
    exact ⟨scan, member, ofBoard, named, version, same.symm⟩

/-- Each key occurs once in each of the two sections of a reconciled manifest. -/
theorem distinct_assemble :
    ((assemble old (scans host old releases session)).manifest.cros.map (·.key)).Nodup ∧
      ((assemble old (scans host old releases session)).manifest.firmware.map (·.key)).Nodup := by
  have ascending := decided_ascending old
    (scansOf_ascending (survey host old releases session)
      (BoardVersions.collect old releases).ascending)
  have decidedOnce := ascending.imp BoardModel.ne_of_precedes
  obtain ⟨os, _⟩ := devices_assemble old (scans host old releases session)
  have once := os.nodup_iff.mpr ((choose_sublist approves).nodup decidedOnce)
  have keys : ((assemble old (scans host old releases session)).manifest.cros.map
      (·.key)).Nodup := by
    rw [map_key]
    refine List.pairwise_map.mpr (once.imp ?_)
    intro left right different same
    obtain ⟨boards, models⟩ := EntryKey.mk.inj same
    exact different (congr (congrArg BoardModel.mk boards) models)
  exact ⟨keys, (keys_assemble old _).nodup_iff.mp keys⟩

end Entries

section Provenance

variable {old : Manifest} {scan : BoardScan} {model version firmware : String}

/-- A model has its best version, with the firmware that the record of that version has
for it. -/
structure Resolved (scan : BoardScan) (model version firmware : String) : Prop where
  best : scan.versions.best? model = some version
  recorded : (scan.records.get? version).bind (·.get? model) = some firmware

/-- The record of the best version of a model does not name it, or there is none. The
model has the firmware of the old manifest, with the version of the board or, if the
board has none, its own. -/
structure Retained (old : Manifest) (scan : BoardScan) (model version firmware : String) :
    Prop where
  unrecorded : ∃ best, scan.versions.best? model = some best ∧
    (scan.records.get? best).bind (·.get? model) = none
  firmware : old.firmwareFor? scan.buildTarget model = some firmware
  version : (scan.versions.legacy ≠ "" ∧ version = scan.versions.legacy) ∨
    (scan.versions.legacy = "" ∧ scan.versions.perModel.get? model = some version)

/-- A model that is approved has been resolved or retained. -/
theorem approved_iff :
    decide old scan model = .approved version firmware ↔
      Resolved scan model version firmware ∨ Retained old scan model version firmware := by
  rw [decide_eq_approved_iff]
  constructor
  · rintro ⟨best, found, ⟨rfl, recorded⟩ | ⟨unrecorded, kept⟩⟩
    · exact .inl ⟨found, recorded⟩
    · obtain ⟨onRecord, choice⟩ := fallback?_eq_some_iff.mp kept
      exact .inr ⟨⟨best, found, unrecorded⟩, onRecord, choice⟩
  · rintro (⟨found, recorded⟩ | ⟨⟨best, found, unrecorded⟩, onRecord, choice⟩)
    · exact ⟨version, found, .inl ⟨rfl, recorded⟩⟩
    · exact ⟨best, found, .inr ⟨unrecorded, fallback?_eq_some_iff.mpr ⟨onRecord, choice⟩⟩⟩

/-- A model that is resolved by the lookups of a reconciliation is approved. -/
theorem Resolved.approves {σ : Type} {host : Host σ} {releases : List BoardRelease}
    {session : Session σ} {buildTarget : String}
    (resolved : Resolved (boardScan old releases (survey host old releases session) buildTarget)
      model version firmware) :
    Approves old releases (survey host old releases session) ⟨buildTarget, model⟩ version
      firmware := by
  obtain ⟨record, found, has⟩ := Option.bind_eq_some_iff.mp resolved.recorded
  obtain ⟨named, _⟩ := relevant_of_record found
  have contains : record.contains model = true := by
    rw [Table.contains, has]
    rfl
  exact ⟨named, mem_models.mpr ⟨version, record, found, contains⟩,
    approved_iff.mpr (.inl resolved)⟩

/-- A model that has been resolved has not been retained. -/
theorem Resolved.not_retained (resolved : Resolved scan model version firmware)
    {other kept : String} : ¬ Retained old scan model other kept := by
  rintro ⟨⟨best, found, unrecorded⟩, _, _⟩
  rw [resolved.best] at found
  cases found
  rw [resolved.recorded] at unrecorded
  cases unrecorded

end Provenance

end Reconcile

end StableFleet
