import StableFleet.Table

/-!
# Scheduler dimensions

A device is advertised by its dimensions: under each key an ordered list of
values. In clean dimensions no key and no value is empty, every key has a value,
and no value stands twice under its key; of equal values the first is kept.
-/

namespace StableFleet

/-- The values under each key. -/
abbrev Dimensions := Table (List String)

namespace Dimensions

/-- The values without those that stood earlier. -/
def firsts : List String → List String
  | [] => []
  | value :: rest => value :: (firsts rest).filter (· ≠ value)

/-- The values that are kept under a key. -/
def cleanValues (values : List String) : List String :=
  firsts (values.filter fun value => !value.isEmpty)

/-- The dimensions with empty and repeated values and empty keys dropped. -/
def clean (dimensions : Dimensions) : Dimensions :=
  (dimensions.map fun _ values => cleanValues values).filter fun key values =>
    !key.isEmpty && !values.isEmpty

/-- Dropping later repetitions drops no value altogether. -/
@[simp] theorem mem_firsts {value : String} {values : List String} :
    value ∈ firsts values ↔ value ∈ values := by
  induction values with
  | nil => rfl
  | cons head rest inductionHypothesis =>
    by_cases same : value = head
    · simp [firsts, same]
    · simp [firsts, same, inductionHypothesis]

/-- No value stands twice. -/
theorem firsts_nodup (values : List String) : (firsts values).Nodup := by
  induction values with
  | nil => exact List.nodup_nil
  | cons head rest inductionHypothesis =>
    exact List.nodup_cons.mpr ⟨by simp, inductionHypothesis.filter _⟩

/-- Values of which none stands twice are kept as they are. -/
theorem firsts_of_nodup {values : List String} (distinct : values.Nodup) :
    firsts values = values := by
  induction values with
  | nil => rfl
  | cons head rest inductionHypothesis =>
    have parts := List.nodup_cons.mp distinct
    simp only [firsts, inductionHypothesis parts.2, List.cons.injEq, true_and]
    refine List.filter_eq_self.mpr fun value present => ?_
    simpa using fun same : value = head => parts.1 (same ▸ present)

/-- The values that are kept are those that are not empty. -/
theorem mem_cleanValues {value : String} {values : List String} :
    value ∈ cleanValues values ↔ value ∈ values ∧ value ≠ "" := by
  simp [cleanValues]

end Dimensions

end StableFleet
