import StableFleet.Proofs.Reconcile.Survey

/-!
# What a reconciliation decides

A reconciliation decides about each model of each board that it scans. The devices
it decides about stand in strictly ascending order, and each of the four lists of
its outcome is a choice among the decisions: the approved devices for the two
sections of the manifest, the novel ones and the invalid ones.
-/

namespace StableFleet

/-- One device comes before another: by the build target, and then by the model. -/
def BoardModel.Precedes (left right : BoardModel) : Prop :=
  left.buildTarget < right.buildTarget ∨
    (left.buildTarget = right.buildTarget ∧ left.model < right.model)

theorem BoardModel.ne_of_precedes {left right : BoardModel} (before : left.Precedes right) :
    left ≠ right := by
  rintro rfl
  rcases before with below | ⟨_, below⟩
  · exact String.lt_irrefl _ below
  · exact String.lt_irrefl _ below

/-- The device that an entry is about. -/
def VersionEntry.device (entry : VersionEntry) : BoardModel :=
  ⟨entry.key.buildTarget, entry.key.model⟩

/-- How often a reconciliation lists a device: among the operating-system entries,
among the firmware entries, as novel and as invalid. -/
def Reconciliation.listings (outcome : Reconciliation) (device : BoardModel) :
    Nat × Nat × Nat × Nat :=
  ((outcome.manifest.cros.map (·.device)).count device,
    (outcome.manifest.firmware.map (·.device)).count device,
    outcome.novel.count device, outcome.invalid.count device)

namespace Table

variable {α : Type}

theorem mem_values_iff {table : Table α} {value : α} :
    value ∈ table.values ↔ ∃ key, table.get? key = some value := by
  constructor
  · intro present
    obtain ⟨⟨key, _⟩, member, rfl⟩ := List.mem_map.mp present
    exact ⟨key, mem_toList_iff.mp member⟩
  · rintro ⟨key, found⟩
    exact List.mem_map.mpr ⟨(key, value), mem_toList_iff.mpr found, rfl⟩

end Table

namespace Reconcile

/-- The models of a board are those that its records name. -/
theorem mem_models {scan : BoardScan} {model : String} :
    model ∈ models scan ↔
      ∃ version record, scan.records.get? version = some record ∧ record.contains model = true := by
  have listed : model ∈ models scan ↔ model ∈ scan.records.values.flatMap Table.keys :=
    TextSet.mem_ofList
  rw [listed, List.mem_flatMap]
  constructor
  · rintro ⟨record, present, names⟩
    obtain ⟨version, found⟩ := Table.mem_values_iff.mp present
    exact ⟨version, record, found, Table.mem_keys_iff.mp names⟩
  · rintro ⟨version, record, found, names⟩
    exact ⟨record, Table.mem_values_iff.mpr ⟨version, found⟩, Table.mem_keys_iff.mpr names⟩

/-- The decisions of a reconciliation, in order. -/
def decided (old : Manifest) (scans : List BoardScan) : List (BoardModel × ModelOutcome) :=
  scans.flatMap (decisions old)

/-- A decision about a device is about a model of a scan. -/
theorem mem_decided {old : Manifest} {scans : List BoardScan}
    {decision : BoardModel × ModelOutcome} :
    decision ∈ decided old scans ↔ ∃ scan ∈ scans, decision.1.buildTarget = scan.buildTarget ∧
      decision.1.model ∈ models scan ∧ decision.2 = decide old scan decision.1.model := by
  constructor
  · intro present
    obtain ⟨scan, member, chosen⟩ := List.mem_flatMap.mp present
    obtain ⟨model, named, rfl⟩ := List.mem_map.mp chosen
    exact ⟨scan, member, rfl, named, rfl⟩
  · rintro ⟨scan, member, ofBoard, named, outcome⟩
    refine List.mem_flatMap.mpr ⟨scan, member, List.mem_map.mpr ⟨_, named, ?_⟩⟩
    obtain ⟨⟨buildTarget, model⟩, result⟩ := decision
    exact Prod.ext (congrArg (BoardModel.mk · model) ofBoard.symm) outcome.symm

/-- The devices that are decided about stand in strictly ascending order when the
boards do. -/
theorem decided_ascending (old : Manifest) {scans : List BoardScan}
    (ascending : scans.Pairwise fun left right => left.buildTarget < right.buildTarget) :
    ((decided old scans).map (·.1)).Pairwise BoardModel.Precedes := by
  refine List.pairwise_map.mpr (List.pairwise_flatMap.mpr ⟨?_, ?_⟩)
  · intro scan _
    have models : (models scan).Pairwise fun left right => left < right :=
      (TextSet.ofList _).ascending
    exact List.pairwise_map.mpr (models.imp fun below => .inr ⟨rfl, below⟩)
  · refine ascending.imp ?_
    intro left right below first inLeft second inRight
    obtain ⟨_, _, rfl⟩ := List.mem_map.mp inLeft
    obtain ⟨_, _, rfl⟩ := List.mem_map.mp inRight
    exact .inl below

/-- Scans in the order of collected boards. -/
theorem scansOf_ascending (looked : List Lookup) {boards : List (String × BoardVersions)}
    (ascending : boards.Pairwise fun left right => left.1 < right.1) :
    (scansOf looked boards).Pairwise fun left right => left.buildTarget < right.buildTarget :=
  List.pairwise_map.mpr (ascending.filter _)

/-- The devices with a decision of some kind, in order. -/
def choose (kind : ModelOutcome → Bool) (decided : List (BoardModel × ModelOutcome)) :
    List BoardModel :=
  (decided.filter fun decision => kind decision.2).map (·.1)

/-- Whether a model has entries in the new manifest. -/
def approves : ModelOutcome → Bool
  | .approved .. => true
  | _ => false

section Choice

variable {decided : List (BoardModel × ModelOutcome)} {device : BoardModel}

theorem choose_sublist (kind : ModelOutcome → Bool) :
    (choose kind decided).Sublist (decided.map (·.1)) :=
  List.filter_sublist.map _

/-- A device that is decided about once has one outcome. -/
theorem outcome_unique (distinct : (decided.map (·.1)).Nodup) {outcome other : ModelOutcome}
    (first : (device, outcome) ∈ decided) (second : (device, other) ∈ decided) :
    outcome = other := by
  induction decided with
  | nil => cases first
  | cons decision rest inductionHypothesis =>
    obtain ⟨fresh, distinct⟩ := List.nodup_cons.mp distinct
    have absent (result : ModelOutcome) (same : (device, result) = decision) :
        ∀ left, (device, left) ∉ rest := by
      intro left present
      refine fresh (List.mem_map.mpr ⟨_, present, ?_⟩)
      rw [← same]
    rcases List.mem_cons.mp first with here | later
    · rcases List.mem_cons.mp second with same | later
      · exact congrArg Prod.snd (here.trans same.symm)
      · exact absurd later (absent outcome here other)
    · rcases List.mem_cons.mp second with here | also
      · exact absurd later (absent other here outcome)
      · exact inductionHypothesis distinct later also

/-- A device that is decided about once is chosen once if its outcome is of the
kind, and not otherwise. -/
theorem count_choose (distinct : (decided.map (·.1)).Nodup) {outcome : ModelOutcome}
    (present : (device, outcome) ∈ decided) (kind : ModelOutcome → Bool) :
    (choose kind decided).count device = if kind outcome then 1 else 0 := by
  cases chosen : kind outcome with
  | true =>
    have member : device ∈ choose kind decided :=
      List.mem_map.mpr ⟨_, List.mem_filter.mpr ⟨present, chosen⟩, rfl⟩
    have once := List.nodup_iff_count.mp ((choose_sublist kind).nodup distinct) device
    have some := List.count_pos_iff.mpr member
    rw [if_pos rfl]
    omega
  | false =>
    rw [if_neg Bool.false_ne_true]
    refine List.count_eq_zero_of_not_mem ?_
    intro member
    obtain ⟨⟨_, other⟩, kept, rfl⟩ := List.mem_map.mp member
    obtain ⟨also, ofKind⟩ := List.mem_filter.mp kept
    rw [outcome_unique distinct present also] at chosen
    exact Bool.false_ne_true (chosen.symm.trans ofKind)

/-- A device that is not decided about is not chosen. -/
theorem count_choose_of_absent (absent : device ∉ decided.map (·.1))
    (kind : ModelOutcome → Bool) : (choose kind decided).count device = 0 :=
  List.count_eq_zero_of_not_mem fun member => absent ((choose_sublist kind).subset member)

/-- Entries that are made of the approved devices, and of no others, have those
devices. -/
theorem devices_entries {entryOf : BoardModel × ModelOutcome → Option VersionEntry}
    (made : ∀ device outcome, (entryOf (device, outcome)).map (·.device) =
      if approves outcome then some device else none) :
    (decided.filterMap entryOf).map (·.device) = choose approves decided := by
  induction decided with
  | nil => rfl
  | cons decision rest inductionHypothesis =>
    obtain ⟨device, outcome⟩ := decision
    have first := made device outcome
    rw [choose] at inductionHypothesis ⊢
    cases approved : approves outcome with
    | true =>
      rw [approved, if_pos rfl] at first
      obtain ⟨entry, found, same⟩ := Option.map_eq_some_iff.mp first
      rw [List.filterMap_cons_some found, List.map_cons, same, inductionHypothesis]
      simp [approved]
    | false =>
      rw [approved, if_neg Bool.false_ne_true, Option.map_eq_none_iff] at first
      rw [List.filterMap_cons_none first, inductionHypothesis]
      simp [approved]

end Choice

/-- The devices of the two sections of an assembled manifest are those that are
approved. -/
theorem devices_assemble (old : Manifest) (scans : List BoardScan) :
    ((assemble old scans).manifest.cros.map (·.device)).Perm
        (choose approves (decided old scans)) ∧
      ((assemble old scans).manifest.firmware.map (·.device)).Perm
        (choose approves (decided old scans)) := by
  constructor
  · have devices : ((decided old scans).filterMap osEntry?).map (·.device) = _ :=
      devices_entries fun _ outcome => by cases outcome <;> rfl
    rw [← devices]
    exact (Manifest.sortEntries_perm _).map _
  · have devices : ((decided old scans).filterMap firmwareEntry?).map (·.device) = _ :=
      devices_entries fun _ outcome => by cases outcome <;> rfl
    rw [← devices]
    exact (Manifest.sortEntries_perm _).map _

/-- The entry key of a device. -/
def keyOf (device : BoardModel) : EntryKey := ⟨device.buildTarget, device.model⟩

theorem map_key (entries : List VersionEntry) :
    entries.map (·.key) = (entries.map (·.device)).map keyOf := by
  rw [List.map_map]
  rfl

/-- The two sections of an assembled manifest have the same keys. -/
theorem keys_assemble (old : Manifest) (scans : List BoardScan) :
    ((assemble old scans).manifest.cros.map (·.key)).Perm
      ((assemble old scans).manifest.firmware.map (·.key)) := by
  obtain ⟨os, firmware⟩ := devices_assemble old scans
  rw [map_key, map_key]
  exact (os.trans firmware.symm).map keyOf

/-- The four lists of an assembled outcome are choices among the decisions. -/
theorem listings_assemble (old : Manifest) (scans : List BoardScan) (device : BoardModel) :
    (assemble old scans).listings device =
      ((choose approves (decided old scans)).count device,
        (choose approves (decided old scans)).count device,
        (choose (· = .novel) (decided old scans)).count device,
        (choose (· = .invalid) (decided old scans)).count device) := by
  obtain ⟨os, firmware⟩ := devices_assemble old scans
  unfold Reconciliation.listings
  rw [os.count_eq, firmware.count_eq]
  rfl

end Reconcile

end StableFleet
