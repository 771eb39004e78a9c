import StableFleet.Proofs.Reconcile.Boards

/-!
# The versions that a reconciled manifest puts on record

Where keys are distinct, the version on record for a model is that of its entry, or else
that of the entry of its board. A reconciled manifest has distinct keys, so what a later
reconciliation finds on record in it is what the models were approved with; and two
reconciled manifests with the same further section are the same when the same models were
approved with the same versions and firmware.
-/

namespace StableFleet

/-- Of two devices one comes before the other only one way. -/
theorem BoardModel.not_precedes_of_precedes {left right : BoardModel}
    (before : left.Precedes right) : ¬ right.Precedes left := by
  rintro (after | ⟨same, after⟩)
  · rcases before with below | ⟨same, _⟩
    · exact String.lt_asymm below after
    · exact String.lt_irrefl _ (same ▸ after)
  · rcases before with below | ⟨_, below⟩
    · exact String.lt_irrefl _ (same ▸ below)
    · exact String.lt_asymm below after

namespace Reconcile

section Noted

variable {buildTarget : String} {entries : List VersionEntry}

/-- A last entry is noted after the others. -/
theorem noted_append (entries : List VersionEntry) (entry : VersionEntry) :
    noted (entries ++ [entry]) = BoardVersions.noteEntry entry (noted entries) :=
  List.foldl_append

/-- The version that is noted for a board is that of the last of its entries without a model,
and the version that is noted for a model that of the last of its entries. The induction takes
the entries from the last. -/
theorem noted_latest (ofBoard : ∀ entry ∈ entries, entry.key.buildTarget = buildTarget) :
    (noted entries).legacy = (Manifest.latestFor? entries ⟨buildTarget, ""⟩).getD "" ∧
      ∀ model, model ≠ "" →
        (noted entries).perModel.get? model = Manifest.latestFor? entries ⟨buildTarget, model⟩ := by
  rw [← entries.reverse_reverse] at ofBoard ⊢
  generalize entries.reverse = reversed at ofBoard ⊢
  induction reversed with
  | nil => exact ⟨rfl, fun _ _ => rfl⟩
  | cons entry reversed inductionHypothesis =>
    rw [List.reverse_cons] at ofBoard ⊢
    obtain ⟨legacy, perModel⟩ := inductionHypothesis fun other member =>
      ofBoard other (List.mem_append_left _ member)
    have board := ofBoard entry (List.mem_append_right _ List.mem_cons_self)
    obtain ⟨⟨place, other⟩, version⟩ := entry
    cases board
    simp only [noted_append, Manifest.latestFor?_append, BoardVersions.noteEntry]
    by_cases unnamed : other = ""
    · refine ⟨by simp [unnamed], fun model named => ?_⟩
      simp [unnamed, perModel model named, Ne.symm named]
    · refine ⟨by simp [unnamed, legacy], fun model named => ?_⟩
      by_cases here : model = other
      · simp [here, unnamed]
      · simp [unnamed, perModel model named, here, Ne.symm here]

/-- No version is noted for a model without a name. -/
theorem perModel_noted_empty (entries : List VersionEntry) :
    (noted entries).perModel.get? "" = none := by
  have keeps (versions : BoardVersions) : (entries.foldl
      (fun versions entry => BoardVersions.noteEntry entry versions) versions).perModel.get? "" =
      versions.perModel.get? "" := by
    induction entries generalizing versions with
    | nil => rfl
    | cons entry entries inductionHypothesis =>
      rw [List.foldl_cons, inductionHypothesis, BoardVersions.noteEntry]
      split
      · rfl
      · next named =>
        dsimp only
        rw [Table.get?_insert, if_neg]
        rintro same
        exact named (by rw [← same]; rfl)
  exact keeps {}

end Noted

section Versions

variable {manifest : Manifest} {releases : List BoardRelease} {buildTarget : String}

/-- The version of the feed does not depend on the manifest. -/
theorem released_versionsOf (manifest other : Manifest) (releases : List BoardRelease)
    (buildTarget : String) :
    (versionsOf manifest releases buildTarget).released =
      (versionsOf other releases buildTarget).released := by
  rw [versionsOf_eq, versionsOf_eq]

/-- No version is on record for a model without a name. -/
theorem perModel_versionsOf_empty (manifest : Manifest) (releases : List BoardRelease)
    (buildTarget : String) :
    (versionsOf manifest releases buildTarget).perModel.get? "" = none := by
  rw [versionsOf_eq]
  exact perModel_noted_empty _

/-- The version that is known of a board is that of its last entry without a model. -/
theorem legacy_versionsOf (manifest : Manifest) (releases : List BoardRelease)
    (buildTarget : String) :
    (versionsOf manifest releases buildTarget).legacy =
      (Manifest.latestFor? manifest.cros ⟨buildTarget, ""⟩).getD "" := by
  rw [versionsOf_eq, ← Manifest.latestFor?_filter]
  exact (noted_latest fun entry member => of_decide_eq_true (List.mem_filter.mp member).2).1

/-- The version that is known of a model itself is that of its last entry. -/
theorem perModel_versionsOf (manifest : Manifest) (releases : List BoardRelease)
    (buildTarget : String) {model : String} (named : model ≠ "") :
    (versionsOf manifest releases buildTarget).perModel.get? model =
      Manifest.latestFor? manifest.cros ⟨buildTarget, model⟩ := by
  rw [versionsOf_eq, ← Manifest.latestFor?_filter]
  exact (noted_latest fun entry member => of_decide_eq_true (List.mem_filter.mp member).2).2
    model named

variable (distinct : (manifest.cros.map (·.key)).Nodup)

include distinct

/-- Where keys are distinct, the version on record for a board is that of its entry without
a model. -/
theorem legacy_of_distinct (releases : List BoardRelease) (buildTarget : String) :
    (versionsOf manifest releases buildTarget).legacy =
      (manifest.osFor? buildTarget "").getD "" := by
  rw [legacy_versionsOf, Manifest.latestFor?_of_distinct distinct]
  rfl

/-- Where keys are distinct, the version on record for a model itself is that of its
entry. -/
theorem perModel_of_distinct (releases : List BoardRelease) (buildTarget : String) {model : String}
    (named : model ≠ "") :
    (versionsOf manifest releases buildTarget).perModel.get? model =
      manifest.osFor? buildTarget model := by
  rw [perModel_versionsOf _ _ _ named, Manifest.latestFor?_of_distinct distinct]
  rfl

/-- The version on record for a model that has an entry is that of the entry. -/
theorem pinned_of_osFor? {model version : String}
    (onRecord : manifest.osFor? buildTarget model = some version) :
    (versionsOf manifest releases buildTarget).pinned model = version := by
  rw [BoardVersions.pinned]
  by_cases unnamed : model = ""
  · subst unnamed
    rw [perModel_versionsOf_empty, legacy_of_distinct distinct, onRecord]
    rfl
  · rw [perModel_of_distinct distinct releases buildTarget unnamed, onRecord]
    rfl

end Versions

section Same

variable {σ τ : Type} {host : Host σ} {other : Host τ} {old new : Manifest}
  {releases releases' : List BoardRelease} {session : Session σ} {session' : Session τ}

/-- A manifest has on record what a reconciliation approves: each key occurs once, and the
versions and firmware of models are those that they were approved with. -/
structure Records (old : Manifest) (releases : List BoardRelease) (looked : List Lookup)
    (manifest : Manifest) : Prop where
  distinct : (manifest.cros.map (·.key)).Nodup
  os : ∀ (device : BoardModel) (version : String),
    manifest.osFor? device.buildTarget device.model = some version ↔
      ∃ firmware, Approves old releases looked device version firmware
  firmware : ∀ (device : BoardModel) (firmware : String),
    manifest.firmwareFor? device.buildTarget device.model = some firmware ↔
      ∃ version, Approves old releases looked device version firmware

/-- A reconciled manifest has on record what the reconciliation approves. -/
theorem records_assemble (host : Host σ) (old : Manifest) (releases : List BoardRelease)
    (session : Session σ) :
    Records old releases (survey host old releases session)
      (assemble old (scans host old releases session)).manifest where
  distinct := distinct_assemble.1
  os _ _ := (Manifest.versionFor?_eq_some_iff distinct_assemble.1).trans mem_cros_iff
  firmware _ _ := (Manifest.versionFor?_eq_some_iff distinct_assemble.2).trans mem_firmware_iff

/-- A model is approved with one version and one firmware. -/
theorem Approves.unique {looked : List Lookup} {device : BoardModel}
    {version firmware version' firmware' : String}
    (first : Approves old releases looked device version firmware)
    (second : Approves old releases looked device version' firmware') :
    version = version' ∧ firmware = firmware' := by
  cases first.2.2.symm.trans second.2.2
  exact ⟨rfl, rfl⟩

/-- The decisions to approve a model, in order. -/
def approvals (decided : List (BoardModel × ModelOutcome)) : List (BoardModel × ModelOutcome) :=
  decided.filter fun decision => approves decision.2

/-- The decisions to approve a model are those that a reconciliation approves. -/
theorem mem_approvals {decision : BoardModel × ModelOutcome} :
    decision ∈ approvals (decided old (scans host old releases session)) ↔
      ∃ version firmware, decision.2 = .approved version firmware ∧
        Approves old releases (survey host old releases session) decision.1 version firmware := by
  obtain ⟨device, outcome⟩ := decision
  rw [approvals, List.mem_filter, mem_decided_iff]
  constructor
  · rintro ⟨decided, approved⟩
    cases outcome with
    | approved version firmware => exact ⟨version, firmware, rfl, decided⟩
    | novel => cases approved
    | invalid => cases approved
  · rintro ⟨version, firmware, rfl, approved⟩
    exact ⟨approved, rfl⟩

/-- Entries are made of decisions to approve a model. -/
theorem filterMap_approvals {entryOf : BoardModel × ModelOutcome → Option VersionEntry}
    (made : ∀ decision, approves decision.2 = false → entryOf decision = none)
    (decided : List (BoardModel × ModelOutcome)) :
    (approvals decided).filterMap entryOf = decided.filterMap entryOf := by
  rw [approvals, List.filterMap_filter]
  congr 1
  funext decision
  cases approved : approves decision.2 with
  | true => rfl
  | false => exact (made decision approved).symm

/-- The decisions to approve a model stand in the order of the devices. -/
theorem approvals_ascending (host : Host σ) (old : Manifest) (releases : List BoardRelease)
    (session : Session σ) :
    (approvals (decided old (scans host old releases session))).Pairwise
      fun left right => left.1.Precedes right.1 :=
  (List.pairwise_map.mp (decided_ascending old (scansOf_ascending _
    (BoardVersions.collect old releases).ascending))).filter _

/-- When two runs approve the same models with the same versions and firmware, their
decisions to approve a model are the same, in the same order. -/
theorem approvals_eq
    (same : ∀ device version firmware,
      Approves old releases (survey host old releases session) device version firmware ↔
      Approves new releases' (survey other new releases' session') device version firmware) :
    approvals (decided old (scans host old releases session)) =
      approvals (decided new (scans other new releases' session')) := by
  have before := approvals_ascending host old releases session
  have after := approvals_ascending other new releases' session'
  have distinct {decisions : List (BoardModel × ModelOutcome)}
      (ordered : decisions.Pairwise fun left right => left.1.Precedes right.1) :
      decisions.Nodup :=
    ordered.imp fun before equal => BoardModel.ne_of_precedes before (congrArg Prod.fst equal)
  refine List.Perm.eq_of_pairwise ?_ before after
    ((List.perm_ext_iff_of_nodup (distinct before) (distinct after)).mpr ?_)
  · intro left right _ _ first second
    exact absurd second (BoardModel.not_precedes_of_precedes first)
  · intro decision
    rw [mem_approvals, mem_approvals]
    simp only [same]

/-- A model that one reconciliation approves is approved, with the same version and firmware,
by every other that has the same manifest on record. -/
theorem Records.approves {looked looked' : List Lookup} {manifest : Manifest}
    (before : Records old releases looked manifest) (after : Records new releases' looked' manifest)
    {device : BoardModel} {version firmware : String}
    (approved : Approves old releases looked device version firmware) :
    Approves new releases' looked' device version firmware := by
  obtain ⟨_, first⟩ := (after.os _ _).mp ((before.os _ _).mpr ⟨firmware, approved⟩)
  obtain ⟨_, second⟩ := (after.firmware _ _).mp ((before.firmware _ _).mpr ⟨version, approved⟩)
  obtain ⟨rfl, rfl⟩ := first.unique second
  exact first

/-- Decisions that approve the same models make the same entries for both sections. -/
theorem filterMap_entries_eq {decisions decisions' : List (BoardModel × ModelOutcome)}
    (same : approvals decisions = approvals decisions') :
    decisions.filterMap osEntry? = decisions'.filterMap osEntry? ∧
      decisions.filterMap firmwareEntry? = decisions'.filterMap firmwareEntry? := by
  have os (decision : BoardModel × ModelOutcome) (left : Reconcile.approves decision.2 = false) :
      osEntry? decision = none := by
    obtain ⟨_, outcome⟩ := decision
    cases outcome <;> first | rfl | cases left
  have kept (decision : BoardModel × ModelOutcome) (left : Reconcile.approves decision.2 = false) :
      firmwareEntry? decision = none := by
    obtain ⟨_, outcome⟩ := decision
    cases outcome <;> first | rfl | cases left
  constructor
  · rw [← filterMap_approvals os, same, filterMap_approvals os]
  · rw [← filterMap_approvals kept, same, filterMap_approvals kept]

/-- Two reconciled manifests with the same further section are the same exactly when the
same models were approved with the same versions and firmware. -/
theorem manifest_eq_iff (faft : Manifest.sortEntries old.faft = Manifest.sortEntries new.faft) :
    (assemble old (scans host old releases session)).manifest =
        (assemble new (scans other new releases' session')).manifest ↔
      ∀ device version firmware,
        Approves old releases (survey host old releases session) device version firmware ↔
        Approves new releases' (survey other new releases' session') device version firmware := by
  constructor
  · intro same device version firmware
    have before := records_assemble host old releases session
    have after := records_assemble other new releases' session'
    rw [same] at before
    exact ⟨before.approves after, after.approves before⟩
  · intro same
    obtain ⟨cros, firmware⟩ := filterMap_entries_eq (approvals_eq same)
    rw [decided, decided] at cros firmware
    simp only [assemble, Manifest.sort, Manifest.mapSections, faft, cros, firmware]

end Same

end Reconcile

end StableFleet
