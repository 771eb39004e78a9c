import StableFleet.Proofs.Reconcile.Served
import StableFleet.Proofs.Version.Comparison

/-!
# The best version of a model

The best version of a model is the greatest valid one of two texts, the version of the feed and
the version on record for the model. A text that spells no version does not count; if neither
does, there is no best version. The version on record for a model is its own, also if that
spells no version, and that of the board only if it has none.

The best version is one that the board refers to, so the archive is asked for its record.
-/

namespace StableFleet

namespace Version

/-- A text is the greatest valid one of some: it is one of them, spells a version, and is no
smaller than any other of them that spells one. -/
structure GreatestOf (texts : List String) (best : String) : Prop where
  member : best ∈ texts
  valid : Accepts readOs best
  bound : ∀ other ∈ texts, Accepts readOs other → NoGreater compareOs other best

/-- The versions that some texts spell. -/
def spelled (texts : List String) : List OsVersion := texts.filterMap OsVersion.parse?

theorem mem_spelled {texts : List String} {version : OsVersion} :
    version ∈ spelled texts ↔ version.text ∈ texts := by
  rw [spelled, List.mem_filterMap]
  simp only [OsVersion.parse?_eq_some_iff]
  constructor
  · rintro ⟨text, present, rfl⟩
    exact present
  · intro present
    exact ⟨version.text, present, rfl⟩

/-- The greatest valid one of some texts is the text of the greatest version that they spell. -/
theorem greatestOf_iff {texts : List String} {best : String} :
    GreatestOf texts best ↔
      ∃ version : OsVersion, best = version.text ∧ OsVersion.Greatest (spelled texts) version := by
  constructor
  · rintro ⟨member, valid, bound⟩
    obtain ⟨version, rfl⟩ := accepts_readOs_iff.mp valid
    refine ⟨version, rfl, mem_spelled.mpr member, fun other present => ?_⟩
    have ordered := bound other.text (mem_spelled.mp present) (accepts_readOs_iff.mpr ⟨other, rfl⟩)
    obtain ⟨smaller, greater, same, same', isLE⟩ := noGreater_iff.mp ordered
    obtain rfl := OsVersion.text_inj.mp same
    obtain rfl := OsVersion.text_inj.mp same'
    exact isLE
  · rintro ⟨version, rfl, member, bound⟩
    refine ⟨mem_spelled.mp member, accepts_readOs_iff.mpr ⟨version, rfl⟩, ?_⟩
    intro other present valid
    obtain ⟨smaller, rfl⟩ := accepts_readOs_iff.mp valid
    exact noGreater_iff.mpr ⟨smaller, version, rfl, rfl, bound smaller (mem_spelled.mpr present)⟩

/-- Texts spell no version exactly when none of them is valid. -/
theorem spelled_eq_nil_iff {texts : List String} :
    spelled texts = [] ↔ ∀ text ∈ texts, ¬ Accepts readOs text := by
  rw [List.eq_nil_iff_forall_not_mem]
  constructor
  · intro none text present valid
    obtain ⟨version, rfl⟩ := accepts_readOs_iff.mp valid
    exact none version (mem_spelled.mpr present)
  · intro invalid version present
    exact invalid version.text (mem_spelled.mp present) (accepts_readOs_iff.mpr ⟨version, rfl⟩)

end Version

namespace BoardVersions

open Version (GreatestOf Accepts readOs spelled)

/-- The texts among which the best version of a model is chosen: the version of the feed, and
the version of the model or else that of the board. -/
def candidates (versions : BoardVersions) (model : String) : List String :=
  [versions.released, (versions.perModel.get? model).getD versions.legacy]

/-- The best version of a model is the text of the greatest version that the candidates
spell. -/
theorem best?_eq_greatest (versions : BoardVersions) (model : String) :
    versions.best? model =
      (OsVersion.greatest? (spelled (versions.candidates model))).map OsVersion.text := by
  have listed : spelled (versions.candidates model) =
      (OsVersion.parse? versions.released).toList ++
        (OsVersion.parse? (versions.pinned model)).toList := by
    change [versions.released, versions.pinned model].filterMap OsVersion.parse? = _
    rw [List.filterMap_cons, List.filterMap_cons]
    cases OsVersion.parse? versions.released <;>
      cases OsVersion.parse? (versions.pinned model) <;> rfl
  rw [listed, best?]
  cases new : OsVersion.parse? versions.released with
  | none =>
    cases old : OsVersion.parse? (versions.pinned model) with
    | none => rfl
    | some oldVersion => exact congrArg some (OsVersion.parse?_eq_some_iff.mp old)
  | some newVersion =>
    have isNew := OsVersion.parse?_eq_some_iff.mp new
    cases old : OsVersion.parse? (versions.pinned model) with
    | none => exact congrArg some isNew
    | some oldVersion =>
      have isOld := OsVersion.parse?_eq_some_iff.mp old
      change some (if _ then _ else _) = some (OsVersion.latest newVersion oldVersion).text
      rw [OsVersion.latest, apply_ite OsVersion.text, ← isNew, ← isOld]

theorem best_eq_ok_iff {versions : BoardVersions} {model version : String} :
    versions.best model = .ok version ↔ versions.best? model = some version := by
  unfold best
  cases versions.best? model <;> simp

theorem best_eq_error_iff {versions : BoardVersions} {model : String} {failure : Error} :
    versions.best model = .error failure ↔
      failure = .noValidVersion model ∧ versions.best? model = none := by
  unfold best
  cases versions.best? model <;> simp [eq_comm]

/-- The best version of a model is the greatest valid one of the version of the feed and the
version on record, and it is one that the board refers to. It fails to be found exactly when
neither of the two is valid, and then the failure names the model. -/
theorem best_greatest (versions : BoardVersions) (model : String) :
    (∀ best, versions.best model = .ok best ↔ GreatestOf (versions.candidates model) best) ∧
    (∀ failure, versions.best model = .error failure ↔ failure = .noValidVersion model ∧
      ∀ version ∈ versions.candidates model, ¬ Accepts readOs version) ∧
    ∀ best, versions.best model = .ok best → best ∈ versions.relevant := by
  refine ⟨fun best => ?_, fun failure => ?_, fun best found => ?_⟩
  · rw [best_eq_ok_iff, best?_eq_greatest, Option.map_eq_some_iff, Version.greatestOf_iff]
    exact exists_congr fun version => by
      rw [OsVersion.greatest?_eq_some_iff, and_comm, eq_comm]
  · rw [best_eq_error_iff, best?_eq_greatest, Option.map_eq_none_iff, ← Version.spelled_eq_nil_iff,
      OsVersion.greatest?_eq_none_iff]
  · exact best?_mem_relevant (best_eq_ok_iff.mp found)

-- The version of a model stands for it also where it is none, though the board has one.
example : best? { legacy := "R85-13310.91.0", perModel := Table.ofList [("vayne", "R85")] }
    "vayne" = none := by
  decide +kernel

end BoardVersions

end StableFleet
