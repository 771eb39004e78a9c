import StableFleet.Proofs.Dimensions.Stability

/-!
# What a projection tells of a record

Every field of a record comes back from its projection as the values under its key tell: a
part with one value as it was, and a part with several as those of them that can be told, each
once. Reading a field sets no other part, so a record is read back field by field, and what
is read is the record with only that kept.

Dimensions that no record has as its projection may tell of a record too. In that record no
self-serve pool is named like one that the lab manages, so its projection is the same when it
is read back and made again.
-/

namespace StableFleet

namespace DeviceRecord

open Projection

/-- What the projection of a record tells of it: everything but labels that are not set,
repetitions, empty values, and attributes that have the key of a part. Self-serve pools
that are named like one that the lab manages count as such. -/
def kept (record : DeviceRecord) : DeviceRecord :=
  { record with
    ctsAbi := setLabels record.ctsAbi
    ctsCpu := setLabels record.ctsCpu
    licenses := setLabels record.licenses
    capabilities.videoAcceleration := setLabels record.capabilities.videoAcceleration
    peripherals.chameleonType := setLabels record.peripherals.chameleonType
    criticalPools :=
      (record.criticalPools.filter Label.isSet ++
        record.selfServePools.filterMap setLabel?).eraseDups
    selfServePools :=
      (record.selfServePools.filter fun pool =>
        pool ≠ "" ∧ ¬ names CriticalPool pool).eraseDups
    attributes :=
      ((record.attributes.filter fun key _ => key ≠ "" ∧ ¬ isReserved key).map
        fun _ values => (values.filter (· ≠ "")).eraseDups).filter fun _ values => values ≠ [] }

end DeviceRecord

namespace Projection

open Dimensions (cleanValues)

/-- Reading a field from the values that it has in a projection changes nothing in what
the projection tells. -/
def Field.Restores (field : Field) : Prop := ∀ record : DeviceRecord,
  field.read (cleanValues (field.write record)) record.kept = record.kept

/-- A field restores what is kept if its form does, and if setting a part to what it is
changes nothing. -/
theorem restores_field {α : Type} {key : String} {form : Form α} {get : DeviceRecord → α}
    {set : DeviceRecord → α → DeviceRecord}
    (restored : ∀ record, form.read (cleanValues (form.write (get record))) = get record.kept)
    (unchanged : ∀ record, set record (get record) = record) :
    (field key form get set).Restores := by
  intro record
  change set record.kept (form.read (cleanValues (form.write (get record)))) = record.kept
  rw [restored, unchanged]

theorem restores_textFields : ∀ field ∈ textFields, field.Restores := by
  repeat
    refine List.forall_mem_cons.mpr
      ⟨restores_field (fun _ => Form.faithful_text _) fun _ => rfl, ?_⟩
  exact List.forall_mem_nil _

theorem restores_flagFields : ∀ field ∈ flagFields, field.Restores := by
  repeat
    refine List.forall_mem_cons.mpr
      ⟨restores_field (fun _ => Form.faithful_flag _) fun _ => rfl, ?_⟩
  exact List.forall_mem_nil _

theorem restores_hardwareFields : ∀ field ∈ hardwareFields, field.Restores := by
  repeat
    refine List.forall_mem_cons.mpr
      ⟨restores_field (fun _ => Form.faithful_hardware _) fun _ => rfl, ?_⟩
  exact List.forall_mem_nil _

theorem restores_labelFields : ∀ field ∈ labelFields, field.Restores := by
  repeat
    refine List.forall_mem_cons.mpr
      ⟨restores_field (fun _ => Form.faithful_label (named_of_all (by decide)) _) fun _ => rfl, ?_⟩
  repeat
    refine List.forall_mem_cons.mpr
      ⟨restores_field (fun _ => Form.read_clean_write (named_of_all (by decide)) _) fun _ => rfl,
        ?_⟩
  exact List.forall_mem_nil _

theorem restores_poolField : poolField.Restores :=
  restores_field (fun _ => Form.read_write_pools _ _) fun _ => rfl

theorem restores_countFields : ∀ field ∈ countFields, field.Restores := by
  refine List.forall_mem_cons.mpr
    ⟨restores_field (fun _ => Form.faithful_upTo _) fun _ => rfl, ?_⟩
  refine List.forall_mem_cons.mpr
    ⟨restores_field (fun _ => Form.faithful_count _) fun _ => rfl, ?_⟩
  exact List.forall_mem_nil _

theorem restores_fields : ∀ field ∈ fields, field.Restores := by
  intro field present
  simp only [fields, List.mem_append, List.mem_singleton] at present
  rcases present with ((((text | flag) | hardware) | label) | rfl) | count
  · exact restores_textFields field text
  · exact restores_flagFields field flag
  · exact restores_hardwareFields field hardware
  · exact restores_labelFields field label
  · exact restores_poolField
  · exact restores_countFields field count

/-- Once every field has been read, nothing is left of what was there before but the
attributes. -/
theorem foldl_read (values : Field → List String) {start other : DeviceRecord}
    (same : start.attributes = other.attributes) :
    fields.foldl (fun record field => field.read (values field) record) start =
      fields.foldl (fun record field => field.read (values field) record) other := by
  obtain ⟨⟩ := start
  obtain ⟨⟩ := other
  cases same
  -- Both sides set every part but the attributes, each to the same.
  rfl

end Projection

namespace DeviceRecord

open Projection

/-- The attributes that are kept are those under keys that belong to no field, cleaned. -/
theorem attributes_kept (record : DeviceRecord) :
    record.kept.attributes =
      Dimensions.clean (record.attributes.filter fun key _ => !isReserved key) := by
  apply Table.ext
  intro key
  rw [kept, Dimensions.clean, Table.get?_filter, Table.get?_filter, Table.get?_map, Table.get?_map,
    Table.get?_filter, Table.get?_filter]
  cases record.attributes.get? key with
  | none => rfl
  | some values =>
    by_cases nameless : key = ""
    · cases isReserved key <;> simp [nameless, Option.filter]
    · cases isReserved key <;> simp [nameless, Option.filter, Dimensions.cleanValues_eq]

/-- The attributes that are kept are what a projection has under keys that belong to no
field. -/
theorem attributes_project (record : DeviceRecord) :
    (record.project.filter fun key _ => !isReserved key) = record.kept.attributes := by
  rw [attributes_kept]
  refine Dimensions.eq_of_valuesAt ?_ (Dimensions.filled_clean _) fun key => ?_
  · intro key vacant
    rw [Table.get?_filter, Option.filter_eq_some_iff] at vacant
    exact Dimensions.filled_clean _ key vacant.1
  · rw [Dimensions.valuesAt_filter record.project fun key => !isReserved key,
      Dimensions.valuesAt_clean,
      Dimensions.valuesAt_filter record.attributes fun key => !isReserved key]
    cases reserved : isReserved key with
    | true => simp [Dimensions.cleanValues, Dimensions.firsts]
    | false => simp [record.valuesAt_attribute reserved]

/-- The record that a projection tells of is the record with what the projection keeps. -/
theorem ofDimensions_project (record : DeviceRecord) :
    ofDimensions record.project = record.kept := by
  have unchanged : ∀ field ∈ fields,
      field.read (record.project.valuesAt field.key) record.kept = record.kept := by
    intro field member
    rw [valuesAt_field record member]
    exact restores_fields field member record
  calc ofDimensions record.project
      = fields.foldl (fun known field => field.read (record.project.valuesAt field.key) known)
          record.kept := foldl_read (fun field => record.project.valuesAt field.key)
            ((remaining_eq _).trans record.attributes_project)
    _ = record.kept := List.foldlRecOn (motive := (· = record.kept)) fields _ rfl
          fun known same field member => by rw [same, unchanged field member]

/-- The pools of a record that was read from dimensions are in order: none that it has as a
self-serve pool is named like one that the lab manages. -/
theorem poolsInOrder_ofDimensions (dimensions : Dimensions) :
    (ofDimensions dimensions).PoolsInOrder := by
  have unmanaged : ∀ pool ∈ (ofDimensions dimensions).furtherPools,
      names CriticalPool pool = false := by
    intro pool present
    have further := (Dimensions.mem_cleanValues.mp (List.mem_filter.mp present).1).1
    have read : (ofDimensions dimensions).selfServePools =
        (Form.pools.read (dimensions.valuesAt poolField.key)).2 := rfl
    rw [read, Form.read_pools] at further
    have kept : pool ≠ "" ∧ ¬ names CriticalPool pool := by
      simpa using (List.mem_filter.mp further).2
    simpa using kept.2
  refine List.pairwise_of_forall_mem_list fun earlier _ later present named => ?_
  rw [unmanaged later present] at named
  cases named

/-- Whatever dimensions are, projecting the record that they tell of brings them into a form
that the same does not change again. -/
theorem project_ofDimensions_settled (dimensions : Dimensions) :
    (ofDimensions (ofDimensions dimensions).project).project =
      (ofDimensions dimensions).project := by
  refine Dimensions.eq_of_valuesAt (Dimensions.filled_clean _) (Dimensions.filled_clean _)
    fun key => ?_
  by_cases pools : key = poolField.key
  · rw [pools, valuesAt_again_pools]
    exact (poolsFirst_valuesAt_iff _).mpr (poolsInOrder_ofDimensions dimensions)
  · exact valuesAt_again _ pools

end DeviceRecord

end StableFleet
