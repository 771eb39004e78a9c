import StableFleet.Dimensions.SchedulingUnit
import StableFleet.Proofs.Dimensions.Values

/-!
# What the members of a unit have in common

A value is shared by the members of a unit if there are members and each of them has the
value under the key; a member that lacks the key shares nothing. A unit shows which devices
are stable by the shared values that are not empty, in ascending order, and does not have
the key if there are none.
-/

namespace StableFleet.SchedulingUnit

/-- There are members, and each of them has a value under a key. -/
def Shared (children : List Dimensions) (key value : String) : Prop :=
  children ≠ [] ∧ ∀ child ∈ children, ∃ values, child.get? key = some values ∧ value ∈ values

/-- The values that are common to the members are those that they share. -/
theorem mem_common {children : List Dimensions} {key value : String} :
    value ∈ common children key ↔ Shared children key value := by
  unfold Shared
  simp only [← Dimensions.mem_valuesAt]
  cases children with
  | nil => simp [common]
  | cons first others =>
    have known : value ∈ (TextSet.ofList (first.valuesAt key)).toList ↔
        value ∈ first.valuesAt key := TextSet.mem_ofList
    change value ∈ List.filter (fun value => others.all fun child =>
      (child.valuesAt key).contains value) (TextSet.ofList (first.valuesAt key)).toList ↔ _
    simp [known]

theorem common_ascending (children : List Dimensions) (key : String) :
    (common children key).Pairwise fun left right => left < right := by
  cases children with
  | nil => exact .nil
  | cons first others => exact (TextSet.ofList _).ascending.filter _

/-- Members in another order share the same values. -/
theorem common_of_perm {children others : List Dimensions} (permuted : children.Perm others)
    (key : String) : common children key = common others key := by
  refine TextSet.eq_of_ascending (common_ascending _ _) (common_ascending _ _) fun value => ?_
  rw [mem_common, mem_common, Shared, Shared, ← List.length_pos_iff, ← List.length_pos_iff,
    permuted.length_eq]
  simp only [permuted.mem_iff]

/-- Values in ascending order do not repeat, so cleaning them drops the empty one alone. -/
theorem cleanValues_common (children : List Dimensions) (key : String) :
    Dimensions.cleanValues (common children key) =
      (common children key).filter fun value => !value.isEmpty :=
  Dimensions.firsts_of_nodup
    ((TextSet.nodup_of_ascending (common_ascending children key)).filter _)

/-- A unit has the common values of its members that are not empty. -/
theorem valuesAt_stable (group : SchedulingUnit) (children : List Dimensions) :
    (dimensions group children).valuesAt "label-device-stable" =
      (common children "label-device-stable").filter fun value => !value.isEmpty := by
  rw [← cleanValues_common]
  exact Dimensions.valuesAt_clean_ofList (by simp [listedKeys, commonKeys])
    (by simp [commonKeys]) (by decide)

/-- The values by which a unit shows which devices are stable stand in ascending order. They
are the values, but the empty one, that its members share, and the unit does not have the key
exactly when there are none. -/
theorem stable_shared (group : SchedulingUnit) (children : List Dimensions) :
    ((dimensions group children).valuesAt "label-device-stable").Pairwise (· < ·) ∧
    (∀ value, value ∈ (dimensions group children).valuesAt "label-device-stable" ↔
      value ≠ "" ∧ Shared children "label-device-stable" value) ∧
    ((dimensions group children).get? "label-device-stable" = none ↔
      ¬ ∃ value, value ≠ "" ∧ Shared children "label-device-stable" value) := by
  have kept : ∀ value, value ∈ (dimensions group children).valuesAt "label-device-stable" ↔
      value ≠ "" ∧ Shared children "label-device-stable" value := by
    intro value
    rw [valuesAt_stable, List.mem_filter, mem_common, and_comm]
    simp
  have filled : (dimensions group children).Filled := Dimensions.filled_clean _
  refine ⟨?_, kept, ?_⟩
  · rw [valuesAt_stable]
    exact (common_ascending _ _).filter _
  · rw [filled.get?_eq_none_iff, List.eq_nil_iff_forall_not_mem, not_exists]
    exact forall_congr' fun value => not_congr (kept value)

end StableFleet.SchedulingUnit
