import Mathlib.Data.List.Forall2
import StableFleet.Proofs.Dimensions.CommonValues
import StableFleet.Proofs.Dimensions.Numbering
import StableFleet.Proofs.Dimensions.UnitState

/-!
# The order of the members of a unit

The values that all members have, the number of members and the most severe state are the
same in every order of the members, and the values that are listed from the members are the
same texts. Entries that are alike in this sense make dimensions that are alike, and stay so
when they are cleaned.
-/

namespace StableFleet

namespace SchedulingUnit

open Dimensions (cleanValues)

/-- Values under a key are alike if they are the same, and in the same order unless the key
is one under which the values of the members are listed. -/
def Alike (key : String) (values others : List String) : Prop :=
  values.Perm others ∧ (key ∉ listedKeys.map (·.2) → values = others)

theorem Alike.refl (key : String) (values : List String) : Alike key values values :=
  ⟨.refl _, fun _ => rfl⟩

/-- Alike values are alike when they are cleaned. -/
theorem Alike.clean {key : String} {values others : List String} (alike : Alike key values others) :
    Alike key (cleanValues values) (cleanValues others) := by
  refine ⟨?_, fun unlisted => congrArg cleanValues (alike.2 unlisted)⟩
  refine (List.perm_ext_iff_of_nodup (Dimensions.nodup_cleanValues _)
    (Dimensions.nodup_cleanValues _)).mpr fun value => ?_
  rw [Dimensions.mem_cleanValues, Dimensions.mem_cleanValues, alike.1.mem_iff]

/-- Dimensions are alike if they have alike values under each key. -/
def AllAlike (dimensions other : Dimensions) : Prop :=
  ∀ key, Alike key (dimensions.valuesAt key) (other.valuesAt key)

/-- Putting alike values under a key keeps dimensions alike. -/
theorem AllAlike.insert {known known' : Dimensions} (before : AllAlike known known') {key : String}
    {values others : List String} (alike : Alike key values others) :
    AllAlike (known.insert key values) (known'.insert key others) := by
  intro asked
  rw [Dimensions.valuesAt, Dimensions.valuesAt, Table.get?_insert, Table.get?_insert]
  by_cases here : asked = key
  · rw [if_pos here, if_pos here, here]
    exact alike
  · rw [if_neg here, if_neg here]
    exact before asked

/-- Entries that are alike make dimensions that are alike. -/
theorem allAlike_ofList {entries others : List (String × List String)}
    (alike : List.Forall₂ (fun entry other => entry.1 = other.1 ∧ Alike entry.1 entry.2 other.2)
      entries others) : AllAlike (Table.ofList entries) (Table.ofList others) := by
  have added (known known' : Dimensions) (before : AllAlike known known') :
      AllAlike (entries.foldl (fun table entry => table.insert entry.1 entry.2) known)
        (others.foldl (fun table entry => table.insert entry.1 entry.2) known') := by
    induction alike generalizing known known' with
    | nil => exact before
    | @cons entry other _ _ first _ inductionHypothesis =>
      obtain ⟨key, values⟩ := entry
      obtain ⟨rfl, values⟩ := first
      exact inductionHypothesis _ _ (before.insert values)
  exact added _ _ fun key => Alike.refl key _

/-- Dimensions that are alike are alike when they are cleaned. -/
theorem AllAlike.clean {dimensions other : Dimensions} (alike : AllAlike dimensions other) :
    AllAlike dimensions.clean other.clean := by
  intro key
  rw [Dimensions.valuesAt_clean, Dimensions.valuesAt_clean]
  split
  · exact Alike.refl key _
  · exact (alike key).clean

/-- Members in another order have the same values under the keys that are listed, with the
same numbers behind the repetitions. -/
theorem listed_perm {children others : List Dimensions} (permuted : children.Perm others)
    (key : String) : (listed children key).Perm (listed others key) :=
  distinct_perm (permuted.flatMap_right _)

/-- A unit has alike dimensions when its members are in another order. -/
theorem allAlike_dimensions (group : SchedulingUnit) {children others : List Dimensions}
    (permuted : children.Perm others) :
    AllAlike (dimensions group children) (dimensions group others) := by
  refine (allAlike_ofList (List.rel_append (List.rel_append ?_ ?_) ?_)).clean
  · rw [permuted.length_eq, DutState.aggregate_of_same fun _ => (permuted.map stateOf).mem_iff]
    exact List.forall₂_same.mpr fun _ _ => ⟨rfl, Alike.refl _ _⟩
  · rw [List.forall₂_map_left_iff, List.forall₂_map_right_iff, List.forall₂_same]
    intro keys present
    refine ⟨rfl, listed_perm permuted keys.1, fun unlisted => absurd ?_ unlisted⟩
    exact List.mem_map_of_mem present
  · rw [List.forall₂_map_left_iff, List.forall₂_map_right_iff, List.forall₂_same]
    intro key _
    rw [common_of_perm permuted]
    exact ⟨rfl, Alike.refl _ _⟩

/-- The dimensions of a unit do not depend on the order of its members, but for the order of
the values that are listed from them: they have the same keys, the same values under each
key, and the same in the same order under every key but those three. -/
theorem dimensions_of_perm (group : SchedulingUnit) {children others : List Dimensions}
    (permuted : children.Perm others) :
    (dimensions group children).keys = (dimensions group others).keys ∧
      (∀ key, ((dimensions group children).valuesAt key).Perm
        ((dimensions group others).valuesAt key)) ∧
      ∀ key, key ∉ ["label-board", "label-model", "label-managed_dut"] →
        (dimensions group children).valuesAt key = (dimensions group others).valuesAt key := by
  have alike := allAlike_dimensions group permuted
  have filled (children : List Dimensions) : (dimensions group children).Filled :=
    Dimensions.filled_clean _
  refine ⟨?_, fun key => (alike key).1, fun key => (alike key).2⟩
  refine TextSet.eq_of_ascending (Table.keys_ascending _) (Table.keys_ascending _) fun key => ?_
  rw [(filled _).mem_keys_iff, (filled _).mem_keys_iff, ← List.length_pos_iff,
    ← List.length_pos_iff, (alike key).1.length_eq]

/-- Two boards of one name, and one whose name looks like that of the second of these. -/
def lookalikes : List Dimensions :=
  [Table.ofList [("label-board", ["coral"]), ("dut_state", ["needs_deploy"])],
    Table.ofList [("label-board", ["coral"]), ("dut_state", ["needs_manual_repair"])],
    Table.ofList [("label-board", ["coral_2"]), ("dut_state", ["ready"])]]

theorem dimensions_of_perm_lookalikes :
    lookalikes.Perm lookalikes.reverse ∧
      (dimensions {} lookalikes).valuesAt "label-board" = ["coral", "coral_3", "coral_2"] ∧
      (dimensions {} lookalikes.reverse).valuesAt "label-board" =
        ["coral_2", "coral", "coral_3"] ∧
      (dimensions {} lookalikes).valuesAt "dut_state" = ["needs_manual_attention"] ∧
      (dimensions {} lookalikes).valuesAt "dut_state" =
        (dimensions {} lookalikes.reverse).valuesAt "dut_state" := by
  have reversed : lookalikes.Perm lookalikes.reverse := (List.reverse_perm _).symm
  obtain ⟨_, _, same⟩ := dimensions_of_perm {} reversed
  exact ⟨reversed, by decide +kernel, by decide +kernel, by decide +kernel,
    same "dut_state" (by decide)⟩

end SchedulingUnit

end StableFleet
