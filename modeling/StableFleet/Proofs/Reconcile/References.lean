import StableFleet.Proofs.Reconcile.OnRecord

/-!
# The builds that a manifest and a feed refer to

A manifest and a feed have a version of the feed for a build target, one for its board, and
others for single models. The builds of these are the ones that a reconciliation looks up:
each once, in ascending order of build targets and versions.
-/

namespace StableFleet

namespace Reconcile

/-- What a manifest and a feed have for a build target. Of several releases of it the last
one counts, and so does the last of several entries with one key. -/
structure Collected (old : Manifest) (releases : List BoardRelease) (buildTarget : String)
    (versions : BoardVersions) : Prop where
  released : versions.released =
    lastReleased (releases.filter fun release => release.buildTarget = buildTarget)
  legacy : versions.legacy = (Manifest.latestFor? old.cros ⟨buildTarget, ""⟩).getD ""
  perModel : ∀ model, versions.perModel.get? model =
    if model = "" then none else Manifest.latestFor? old.cros ⟨buildTarget, model⟩

/-- The versions of a build target are what the manifest and the feed have for it. -/
theorem collected_versionsOf (old : Manifest) (releases : List BoardRelease)
    (buildTarget : String) : Collected old releases buildTarget
      (versionsOf old releases buildTarget) where
  released := by rw [versionsOf_eq]
  legacy := legacy_versionsOf old releases buildTarget
  perModel model := by
    by_cases unnamed : model = ""
    · rw [if_pos unnamed, unnamed]
      exact perModel_versionsOf_empty old releases buildTarget
    · rw [if_neg unnamed]
      exact perModel_versionsOf old releases buildTarget unnamed

/-- A manifest or a feed names a build target. -/
def Named (old : Manifest) (releases : List BoardRelease) (buildTarget : String) : Prop :=
  (∃ entry ∈ old.cros, entry.key.buildTarget = buildTarget) ∨
    ∃ release ∈ releases, release.buildTarget = buildTarget

/-- A manifest or a feed has a version for a build target. -/
def Versioned (old : Manifest) (releases : List BoardRelease) (buildTarget version : String) :
    Prop :=
  (∃ entry ∈ old.cros, entry.key.buildTarget = buildTarget ∧ entry.version = version) ∨
    ∃ release ∈ releases, release.buildTarget = buildTarget ∧ release.version = version

/-- A manifest or a feed refers to a version of a build target: it is the version of the
last release of the build target, or of the last entry for its board or for one of its
models. -/
def Refers (old : Manifest) (releases : List BoardRelease) (buildTarget version : String) : Prop :=
  (∃ release, (releases.filter (·.buildTarget = buildTarget)).getLast? = some release ∧
      release.version = version) ∨
    ∃ model entry, (old.cros.filter (·.key = ⟨buildTarget, model⟩)).getLast? = some entry ∧
      entry.version = version

section References

variable {old : Manifest} {releases : List BoardRelease} {buildTarget version : String}

/-- A build target that has a version is named. -/
theorem Versioned.named (versioned : Versioned old releases buildTarget version) :
    Named old releases buildTarget := by
  rcases versioned with ⟨entry, member, named, _⟩ | ⟨release, member, named, _⟩
  · exact .inl ⟨entry, member, named⟩
  · exact .inr ⟨release, member, named⟩

/-- A version that is referred to is in the manifest or in the feed. -/
theorem Refers.versioned (refers : Refers old releases buildTarget version) :
    Versioned old releases buildTarget version := by
  rcases refers with ⟨release, last, same⟩ | ⟨model, entry, last, same⟩
  · obtain ⟨member, ofBoard⟩ := List.mem_filter.mp (List.mem_of_getLast? last)
    exact .inr ⟨release, member, of_decide_eq_true ofBoard, same⟩
  · obtain ⟨member, ofKey⟩ := List.mem_filter.mp (List.mem_of_getLast? last)
    exact .inl ⟨entry, member, congrArg EntryKey.buildTarget (of_decide_eq_true ofKey), same⟩

/-- A version that is not empty is that of the feed when the last release has it. -/
theorem eq_lastReleased_iff (given : version ≠ "") :
    version = lastReleased releases ↔
      ∃ release, releases.getLast? = some release ∧ release.version = version := by
  rcases List.eq_nil_or_concat releases with rfl | ⟨before, last, rfl⟩
  · simp [lastReleased, given]
  · simp [lastReleased, eq_comm]

/-- A version that is not empty is that of a board or of one of its models when the last
entry with some key of the board has it. -/
theorem Collected.pinned_iff {versions : BoardVersions}
    (collected : Collected old releases buildTarget versions) (given : version ≠ "") :
    (version = versions.legacy ∨ ∃ model, versions.perModel.get? model = some version) ↔
      ∃ model entry, (old.cros.filter (·.key = ⟨buildTarget, model⟩)).getLast? = some entry ∧
        entry.version = version := by
  have ofKey (model : String) : Manifest.latestFor? old.cros ⟨buildTarget, model⟩ = some version ↔
      ∃ entry, (old.cros.filter (·.key = ⟨buildTarget, model⟩)).getLast? = some entry ∧
        entry.version = version := by
    rw [Manifest.latestFor?_eq, Option.map_eq_some_iff]
  have ofBoard : version = versions.legacy ↔
      Manifest.latestFor? old.cros ⟨buildTarget, ""⟩ = some version := by
    rw [collected.legacy]
    cases Manifest.latestFor? old.cros ⟨buildTarget, ""⟩ <;> simp [given, eq_comm]
  simp only [← ofKey, ofBoard, collected.perModel]
  -- The entry for the board is the one whose model is empty.
  constructor
  · rintro (board | ⟨model, own⟩)
    · exact ⟨"", board⟩
    · split at own
      · cases own
      · exact ⟨model, own⟩
  · rintro ⟨model, own⟩
    by_cases unnamed : model = ""
    · exact .inl (unnamed ▸ own)
    · exact .inr ⟨model, by rw [if_neg unnamed]; exact own⟩

/-- The versions that a board refers to are those that are referred to and not empty. -/
theorem mem_relevant_iff_refers :
    version ∈ (versionsOf old releases buildTarget).relevant ↔
      version ≠ "" ∧ Refers old releases buildTarget version := by
  have collected := collected_versionsOf old releases buildTarget
  rw [BoardVersions.mem_relevant_iff]
  refine and_congr_right fun given => ?_
  rw [collected.pinned_iff given, collected.released, eq_lastReleased_iff given, Refers]

/-- The builds that a reconciliation looks up are those of the versions that are referred to,
where neither the build target nor the version is empty. -/
theorem mem_builds_iff_refers :
    (buildTarget, version) ∈ builds (BoardVersions.collect old releases).toList ↔
      buildTarget ≠ "" ∧ version ≠ "" ∧ Refers old releases buildTarget version := by
  rw [mem_builds_iff, mem_relevant_iff_refers]

end References

/-- Some lookups are those of the builds that a manifest and a feed refer to. -/
structure LooksUpReferred (old : Manifest) (releases : List BoardRelease) (looked : List Lookup) :
    Prop where
  /-- They are in strictly ascending order of build targets and versions. -/
  ascending : (looked.map fun lookup => (lookup.buildTarget, lookup.version)).Pairwise BuildPrecedes
  /-- A build is looked up if its version is referred to, and neither the build target nor the
  version is empty. -/
  referred : ∀ buildTarget version,
    (∃ answer, ⟨buildTarget, version, answer⟩ ∈ looked) ↔
      buildTarget ≠ "" ∧ version ≠ "" ∧ Refers old releases buildTarget version

/-- A reconciliation looks up the builds that the manifest and the feed refer to. -/
theorem looksUpReferred_survey {σ : Type} (host : Host σ) (old : Manifest)
    (releases : List BoardRelease) (session : Session σ) :
    LooksUpReferred old releases (survey host old releases session) where
  ascending := by
    rw [survey, lookups_builds]
    exact builds_ascending (BoardVersions.collect old releases).ascending
  referred buildTarget version := by
    rw [← mem_builds_iff_refers]
    exact ⟨fun ⟨_, looked⟩ => build_of_lookups looked, lookup_of_build⟩

end Reconcile

end StableFleet
