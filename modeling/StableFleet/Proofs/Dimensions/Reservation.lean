import Mathlib.Data.List.Basic
import StableFleet.Proofs.Dimensions.Retention

/-!
# Keys that attributes cannot touch

Attributes are free: they may have any keys and any values. Still a projection has the same
under every key of a part of the record, whatever the attributes are, and what it has under
other keys is theirs alone. Conversely the parts of a record that dimensions tell of are read
from the keys of parts alone, and all else becomes attributes as it is.

Both directions compare two runs whose inputs agree on the keys of parts. They rest on that no
field has anything to do with the attributes: they do not change how it is written, and reading
it leaves them as they are.
-/

namespace StableFleet

/-- Dimensions that have the same under every key of a part of a record. -/
def Dimensions.AgreeOnParts (left right : Dimensions) : Prop :=
  ∀ key, Projection.isReserved key = true → left.get? key = right.get? key

namespace DeviceRecord

open Projection
open Dimensions (AgreeOnParts)

/-- In a projection every key has a value. -/
theorem filled_project (record : DeviceRecord) : record.project.Filled :=
  Dimensions.filled_clean _

/-- Projections of a record with different attributes agree on the keys of parts. -/
theorem agreeOnParts_project (record : DeviceRecord) (first second : Dimensions) :
    AgreeOnParts (record.withAttributes first).project (record.withAttributes second).project := by
  intro key reserved
  obtain ⟨field, member, rfl⟩ := isReserved_iff.mp reserved
  have written (attributes : Dimensions) :
      (record.withAttributes attributes).project.valuesAt field.key =
        Dimensions.cleanValues (field.write record) := by
    rw [valuesAt_field _ member, (apartFromAttributes field member).write]
  rw [(filled_project _).get?_eq, (filled_project _).get?_eq, written first, written second]

/-- Without attributes, a projection has keys of parts alone. -/
theorem isReserved_of_mem_keys {record : DeviceRecord} (plain : record.attributes = Table.empty)
    {key : String} (present : key ∈ record.project.keys) : isReserved key = true := by
  have held := (filled_project record).mem_keys_iff.mp present
  apply Decidable.byContradiction
  intro other
  have free : isReserved key = false := Bool.eq_false_iff.mpr other
  rw [valuesAt_attribute record free, plain] at held
  exact held (ite_self _)

/-- Under a key of no part, a projection has the values of the attributes that are not empty,
each once, if there are any. -/
theorem get?_project_of_free (record : DeviceRecord) {key : String} {values : List String}
    (free : isReserved key = false) (named : key ≠ "") :
    record.project.get? key = some values ↔ values ≠ [] ∧
      values = ((Dimensions.valuesAt record.attributes key).filter (· ≠ "")).eraseDups := by
  rw [(filled_project record).get?_eq, valuesAt_attribute record free, if_neg named,
    Dimensions.cleanValues_eq]
  split
  · next vacant =>
    rw [vacant]
    simp
  · next held =>
    rw [Option.some.injEq]
    constructor
    · rintro rfl
      exact ⟨held, rfl⟩
    · rintro ⟨-, rfl⟩
      rfl

/-- Dimensions that agree on the keys of parts tell of records that differ in their attributes
at most. -/
theorem ofDimensions_of_agreeOnParts {left right : Dimensions} (agree : AgreeOnParts left right)
    (attributes : Dimensions) :
    (ofDimensions left).withAttributes attributes =
      (ofDimensions right).withAttributes attributes := by
  rw [withAttributes_ofDimensions, withAttributes_ofDimensions]
  -- Both start from the same record, and each field reads from its own key alone.
  apply List.foldl_ext
  intro record field member
  have same : left.valuesAt field.key = right.valuesAt field.key :=
    congrArg (Option.getD · []) (agree field.key (isReserved_iff.mpr ⟨field, member, rfl⟩))
  rw [same]

/-- Attributes and the parts of a record do not touch each other: not when a record is
projected, and not when one is read from dimensions. -/
structure KeepsAttributesApart (project : DeviceRecord → Dimensions)
    (read : Dimensions → DeviceRecord) : Prop where
  /-- What stands under the keys of parts does not depend on the attributes. -/
  parts_unaltered : ∀ (record : DeviceRecord) (first second : Dimensions), AgreeOnParts
    (project (record.withAttributes first)) (project (record.withAttributes second))
  /-- Without attributes there are keys of parts alone. -/
  parts_alone : ∀ (record : DeviceRecord) (key : String),
    key ∈ (project (record.withAttributes Table.empty)).keys → isReserved key = true
  /-- Under other keys the values of the attributes stand, without empty and repeated ones. -/
  attributes_written : ∀ (record : DeviceRecord) (key : String) (values : List String),
    isReserved key = false → key ≠ "" → ((project record).get? key = some values ↔ values ≠ [] ∧
      values = ((Dimensions.valuesAt record.attributes key).filter (· ≠ "")).eraseDups)
  /-- What stands under other keys is read as attributes, as it is. -/
  attributes_read : ∀ dimensions : Dimensions, (read dimensions).attributes.toList =
    dimensions.toList.filter fun entry => !isReserved entry.1
  /-- The parts that are read do not depend on what stands under other keys. -/
  parts_read : ∀ left right : Dimensions, AgreeOnParts left right → ∀ attributes : Dimensions,
    (read left).withAttributes attributes = (read right).withAttributes attributes

/-- Projecting records and reading dimensions keep attributes apart from the parts of a
record. -/
theorem keepsAttributesApart : KeepsAttributesApart project ofDimensions where
  parts_unaltered := agreeOnParts_project
  parts_alone _ _ present := isReserved_of_mem_keys rfl present
  attributes_written record _ _ free named := get?_project_of_free record free named
  attributes_read dimensions := congrArg Table.toList (attributes_ofDimensions dimensions)
  parts_read _ _ agree attributes := ofDimensions_of_agreeOnParts agree attributes

end DeviceRecord

end StableFleet
