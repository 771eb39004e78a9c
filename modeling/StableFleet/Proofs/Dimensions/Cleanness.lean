import Mathlib.Data.List.Basic
import StableFleet.Dimensions.SchedulingUnit
import StableFleet.Proofs.Dimensions.Stability

/-!
# Dimensions that are advertised are clean

Whatever dimensions are made of, cleaning keeps of the values under each key those that are
not empty, in the order in which they first occur. What comes of it is clean, and to clean
clean dimensions changes nothing; so cleaning leaves exactly the clean dimensions as they are.

The dimensions of a device and those of a unit are both entries with different keys that are
cleaned at the end. So both are clean for any record and for any members, and each of their
keys has the first occurrences of the values that its own entry has.
-/

namespace StableFleet

namespace Dimensions

/-- The values that are kept of some: those that are not empty, in the order in which they
first occur. -/
structure KeepsFirst (given kept : List String) : Prop where
  mem_iff : ∀ value, value ∈ kept ↔ value ∈ given ∧ value ≠ ""
  ordered : kept.Pairwise fun earlier later => given.idxOf earlier < given.idxOf later

/-- Dimensions without empty keys, keys without values, empty values, and values that stand
twice under their key. -/
structure Clean (dimensions : Dimensions) : Prop where
  named : "" ∉ dimensions.keys
  filled : dimensions.Filled
  nonempty : ∀ key, "" ∉ dimensions.valuesAt key
  nodup : ∀ key, (dimensions.valuesAt key).Nodup

/-- Dimensions that come of entries: they have no other keys, and under each key the first
occurrences of the values that the entry has. -/
structure MadeOf (entries : List (String × List String)) (dimensions : Dimensions) : Prop where
  keys : ∀ key ∈ dimensions.keys, key ∈ entries.map (·.1)
  kept : ∀ entry ∈ entries, entry.1 ≠ "" → KeepsFirst entry.2 (dimensions.valuesAt entry.1)

/-- First occurrences stand in the order in which they occur. -/
theorem firsts_ordered (values : List String) :
    (firsts values).Pairwise fun earlier later => values.idxOf earlier < values.idxOf later := by
  induction values with
  | nil => exact List.Pairwise.nil
  | cons head rest inductionHypothesis =>
    refine List.pairwise_cons.mpr ⟨fun value present => ?_, ?_⟩
    · have other : value ≠ head := by simpa using (List.mem_filter.mp present).2
      rw [List.idxOf_cons_self, List.idxOf_cons_ne _ other.symm]
      exact Nat.succ_pos _
    · refine (inductionHypothesis.filter _).imp_of_mem ?_
      intro earlier later present present' before
      have other : earlier ≠ head := by simpa using (List.mem_filter.mp present).2
      have other' : later ≠ head := by simpa using (List.mem_filter.mp present').2
      rw [List.idxOf_cons_ne _ other.symm, List.idxOf_cons_ne _ other'.symm]
      exact Nat.succ_lt_succ before

/-- Cleaning values keeps first occurrences. -/
theorem keepsFirst_cleanValues (values : List String) : KeepsFirst values (cleanValues values) := by
  refine ⟨fun value => mem_cleanValues, ?_⟩
  -- Empty values may as well be dropped from the first occurrences.
  rw [cleanValues_eq, ← filter_eraseDups, ← firsts_eq_eraseDups]
  exact (firsts_ordered values).filter _

/-- What is cleaned is clean. -/
theorem clean_clean (dimensions : Dimensions) : (clean dimensions).Clean := by
  have filled := filled_clean dimensions
  refine ⟨?_, filled, fun key => ?_, fun key => ?_⟩
  · rw [filled.mem_keys_iff, valuesAt_clean, if_pos rfl]
    exact fun some => some rfl
  · rw [valuesAt_clean]
    split
    · exact List.not_mem_nil
    · exact empty_notMem_cleanValues _
  · rw [valuesAt_clean]
    split
    · exact List.nodup_nil
    · exact nodup_cleanValues _

/-- Cleaning leaves exactly the clean dimensions as they are. -/
theorem clean_eq_self_iff {dimensions : Dimensions} :
    clean dimensions = dimensions ↔ dimensions.Clean := by
  constructor
  · intro same
    exact same ▸ clean_clean dimensions
  · intro isClean
    refine eq_of_valuesAt (filled_clean dimensions) isClean.filled fun key => ?_
    rw [valuesAt_clean]
    split
    · next nameless =>
      subst nameless
      exact (Decidable.not_not.mp (mt isClean.filled.mem_keys_iff.mpr isClean.named)).symm
    · exact cleanValues_of_nodup (isClean.nodup key) (isClean.nonempty key)

/-- Entries with different keys, put together and cleaned, are what the dimensions are made
of. -/
theorem madeOf_clean_ofList {entries : List (String × List String)}
    (distinct : (entries.map (·.1)).Nodup) : MadeOf entries (clean (Table.ofList entries)) := by
  constructor
  case keys =>
    intro key present
    have values := (filled_clean _).mem_keys_iff.mp present
    rw [valuesAt_clean] at values
    split at values
    · exact absurd rfl values
    · cases found : (Table.ofList entries).get? key with
      | none =>
        rw [valuesAt, found] at values
        exact absurd rfl values
      | some given =>
        exact List.mem_map.mpr ⟨_, (Table.get?_ofList_iff distinct).mp found, rfl⟩
  case kept =>
    intro entry present named
    rw [valuesAt_clean_ofList distinct present named]
    exact keepsFirst_cleanValues entry.2

end Dimensions

namespace SchedulingUnit

/-- The entries that the dimensions of a unit are made of. -/
def entries (group : SchedulingUnit) (children : List Dimensions) :
    List (String × List String) := [
  ("dut_name", [group.name]),
  ("dut_id", [group.name]),
  ("label-pool", group.pools),
  ("label-dut_count", [Projection.numeral children.length]),
  ("label-multiduts", [Projection.trueText]),
  ("dut_state", [Label.name (DutState.aggregate (children.map stateOf))]),
  ("label-board", listed children "label-board"),
  ("label-model", listed children "label-model"),
  ("label-managed_dut", listed children "dut_name"),
  ("label-device-stable", common children "label-device-stable")]

theorem madeOf_entries (group : SchedulingUnit) (children : List Dimensions) :
    (dimensions group children).MadeOf (group.entries children) :=
  Dimensions.madeOf_clean_ofList (by simp [entries])

end SchedulingUnit

/-- The dimensions of every device and of every unit, whatever the members of the unit show,
are clean, so that cleaning them again changes nothing, and under each key they have the first
occurrences of what they are made of. A unit has none but ten keys. -/
theorem advertised_clean :
    (∀ record : DeviceRecord,
      record.project.Clean ∧ record.project.clean = record.project ∧
      record.project.MadeOf record.entries) ∧
    ∀ (group : SchedulingUnit) (children : List Dimensions),
      (group.dimensions children).Clean ∧
      (group.dimensions children).clean = group.dimensions children ∧
      (group.dimensions children).MadeOf (group.entries children) ∧
      ∀ key ∈ (group.dimensions children).keys, key ∈ ["dut_name", "dut_id", "label-pool",
        "label-dut_count", "label-multiduts", "dut_state", "label-board", "label-model",
        "label-managed_dut", "label-device-stable"] := by
  constructor
  · intro record
    have isClean : record.project.Clean := Dimensions.clean_clean _
    exact ⟨isClean, Dimensions.clean_eq_self_iff.mpr isClean,
      Dimensions.madeOf_clean_ofList record.nodup_entries⟩
  · intro group children
    have isClean : (group.dimensions children).Clean := Dimensions.clean_clean _
    have made := group.madeOf_entries children
    exact ⟨isClean, Dimensions.clean_eq_self_iff.mpr isClean, made, made.keys⟩

-- Empty values are numbered like others before the ones without a number are dropped.
example : (SchedulingUnit.dimensions {}
    [Table.ofList [("", ["su-1"]), ("dut_name", ["", "dut-1", "", "dut-1"])]]).valuesAt
      "label-managed_dut" = ["dut-1", "_2", "dut-1_2"] := by
  decide +kernel

end StableFleet
