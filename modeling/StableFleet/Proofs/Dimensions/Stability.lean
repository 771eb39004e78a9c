import StableFleet.Proofs.Dimensions.Form

/-!
# Projecting what was projected and read back

A record is projected, the record that the dimensions tell of is read back, and that one
is projected again. Both projections have the same values under every key but that of the
pools. There the second projection has the pools that are named like one that the lab
manages in front, whichever part of the record they came from. So the two projections are
the same unless a pool that only the other part of the record has is named like that and
comes after one that is not.
-/

namespace StableFleet

namespace Projection

open Dimensions (cleanValues)

/-- What is read from the values that a field has in a projection is written the same
again. -/
def Field.Settled (field : Field) : Prop := ∀ record : DeviceRecord,
  cleanValues (field.write (field.read (cleanValues (field.write record)) {})) =
    cleanValues (field.write record)

/-- A field is settled if its form is, and if what is set in a record is found there. -/
theorem settled_field {α : Type} {key : String} {form : Form α} {get : DeviceRecord → α}
    {set : DeviceRecord → α → DeviceRecord} (settled : form.Settled)
    (found : ∀ record value, get (set record value) = value) :
    (field key form get set).Settled := by
  intro record
  change cleanValues
      (form.write (get (set {} (form.read (cleanValues (form.write (get record))))))) =
    cleanValues (form.write (get record))
  rw [found]
  exact settled (get record)

theorem settled_textFields : ∀ field ∈ textFields, field.Settled := by
  repeat
    refine List.forall_mem_cons.mpr ⟨settled_field Form.faithful_text.settled fun _ _ => rfl, ?_⟩
  exact List.forall_mem_nil _

theorem settled_flagFields : ∀ field ∈ flagFields, field.Settled := by
  repeat
    refine List.forall_mem_cons.mpr ⟨settled_field Form.faithful_flag.settled fun _ _ => rfl, ?_⟩
  exact List.forall_mem_nil _

theorem settled_hardwareFields : ∀ field ∈ hardwareFields, field.Settled := by
  repeat
    refine List.forall_mem_cons.mpr
      ⟨settled_field Form.faithful_hardware.settled fun _ _ => rfl, ?_⟩
  exact List.forall_mem_nil _

theorem settled_labelFields : ∀ field ∈ labelFields, field.Settled := by
  repeat
    refine List.forall_mem_cons.mpr
      ⟨settled_field (Form.faithful_label (named_of_all (by decide))).settled fun _ _ => rfl, ?_⟩
  repeat refine List.forall_mem_cons.mpr ⟨settled_field Form.settled_labels fun _ _ => rfl, ?_⟩
  exact List.forall_mem_nil _

theorem settled_countFields : ∀ field ∈ countFields, field.Settled := by
  refine List.forall_mem_cons.mpr ⟨settled_field Form.faithful_upTo.settled fun _ _ => rfl, ?_⟩
  refine List.forall_mem_cons.mpr ⟨settled_field Form.faithful_count.settled fun _ _ => rfl, ?_⟩
  exact List.forall_mem_nil _

/-- Every field but that of the pools is settled. -/
theorem settled_or_pools : ∀ field ∈ fields, field = poolField ∨ field.Settled := by
  intro field present
  simp only [fields, List.mem_append, List.mem_singleton] at present
  rcases present with ((((text | flag) | hardware) | label) | pools) | count
  · exact .inr (settled_textFields field text)
  · exact .inr (settled_flagFields field flag)
  · exact .inr (settled_hardwareFields field hardware)
  · exact .inr (settled_labelFields field label)
  · exact .inl pools
  · exact .inr (settled_countFields field count)

/-- Fields have different keys, and none is empty. -/
theorem nodup_keys : (fields.map (·.key)).Nodup := by decide +kernel

theorem key_ne_empty : ∀ field ∈ fields, field.key ≠ "" := by decide +kernel

theorem mem_poolField : poolField ∈ fields := by simp [fields]

/-- The keys that are listed for labels, pools and numbers are those of their fields. -/
theorem labelKeys_perm :
    labelKeys.Perm ((labelFields ++ [poolField] ++ countFields).map (·.key)) := by decide +kernel

/-- The keys that no attribute may have are those of the fields. -/
theorem reservedKeys_perm : reservedKeys.Perm (fields.map (·.key)) := by
  have all : fields = textFields ++ flagFields ++ hardwareFields ++
      (labelFields ++ [poolField] ++ countFields) := by
    simp only [fields, List.append_assoc]
  rw [all, List.map_append]
  exact labelKeys_perm.append_left _

theorem isReserved_iff {key : String} :
    isReserved key = true ↔ ∃ field ∈ fields, field.key = key := by
  rw [isReserved, List.contains_iff_mem, reservedKeys_perm.mem_iff, List.mem_map]

/-- What is left when every field has been read is what is under keys that attributes may
have. -/
theorem remaining_eq (dimensions : Dimensions) :
    remaining dimensions = dimensions.filter fun key _ => !isReserved key := by
  have same (key : String) : (fields.any fun field => field.key == key) = isReserved key := by
    rw [Bool.eq_iff_iff, isReserved_iff]
    simp
  simp only [remaining, same]

section Pools

/-- Values with those in front that name a pool that the lab manages. -/
def poolsFirst (values : List String) : List String :=
  values.filter (names CriticalPool) ++ values.filter fun value => !names CriticalPool value

theorem perm_poolsFirst (values : List String) : (poolsFirst values).Perm values :=
  List.filter_append_perm _ values

/-- Values that have a property come first in a list exactly when none of them comes after
one that has not. -/
theorem filter_append_filter_eq_iff {α : Type} {has : α → Bool} {values : List α} :
    (values.filter has ++ values.filter fun value => !has value) = values ↔
      values.Pairwise fun earlier later => has later = true → has earlier = true := by
  induction values with
  | nil => simp
  | cons value values inductionHypothesis =>
    cases here : has value with
    | true => simp [here, inductionHypothesis]
    | false =>
      have others : (∀ later ∈ values, has later = true → has value = true) ↔
          values.filter has = [] := by
        simp [here, List.filter_eq_nil_iff]
      rw [List.pairwise_cons, others]
      constructor
      · intro same
        have front : values.filter has = [] := by
          cases kept : values.filter has with
          | nil => rfl
          | cons first rest =>
            -- The first value in front would be the one that has not the property.
            have member : first ∈ values.filter has := kept ▸ List.mem_cons_self
            rw [List.filter_cons_of_neg (by simp [here]), kept] at same
            obtain ⟨rfl, _⟩ := List.cons.inj same
            cases here.symm.trans (List.mem_filter.mp member).2
        refine ⟨front, inductionHypothesis.mp ?_⟩
        simpa [here, front] using same
      · rintro ⟨front, ordered⟩
        have same := inductionHypothesis.mpr ordered
        rw [front, List.nil_append] at same
        simp [here, front, same]

/-- Clean values of pools are written with those in front that the lab manages. -/
theorem write_read_pools_clean {values : List String} (distinct : values.Nodup)
    (nonempty : "" ∉ values) :
    cleanValues (Form.pools.write (Form.pools.read values)) = poolsFirst values := by
  have others : values.filter (fun pool => pool ≠ "" ∧ ¬ names CriticalPool pool) =
      values.filter fun pool => !names CriticalPool pool := by
    apply List.filter_congr
    intro value present
    have some : value ≠ "" := fun same => nonempty (same ▸ present)
    simp [some]
  have same := perm_poolsFirst values
  rw [Form.write_read_pools, others]
  exact Dimensions.cleanValues_of_nodup (same.nodup_iff.mpr distinct)
    fun present => nonempty (same.mem_iff.mp present)

end Pools

end Projection

/-- The record with other attributes. -/
def DeviceRecord.withAttributes (record : DeviceRecord) (attributes : Dimensions) : DeviceRecord :=
  { record with attributes := attributes }

namespace Projection

/-- A field has nothing to do with the attributes: they do not change how it is written, and
reading it leaves them to be set before or after. -/
structure Field.ApartFromAttributes (field : Field) : Prop where
  write : ∀ (record : DeviceRecord) (attributes : Dimensions),
    field.write (record.withAttributes attributes) = field.write record
  read : ∀ (values : List String) (record : DeviceRecord) (attributes : Dimensions),
    field.read values (record.withAttributes attributes) =
      (field.read values record).withAttributes attributes

/-- No field has anything to do with the attributes. -/
theorem apartFromAttributes : ∀ field ∈ fields, field.ApartFromAttributes := by
  simp only [fields, textFields, flagFields, hardwareFields, labelFields, countFields, poolField,
    List.forall_mem_append]
  refine ⟨⟨⟨⟨⟨?_, ?_⟩, ?_⟩, ?_⟩, ?_⟩, ?_⟩
  all_goals
    repeat refine List.forall_mem_cons.mpr ⟨⟨fun _ _ => rfl, fun _ _ _ => rfl⟩, ?_⟩
    exact List.forall_mem_nil _

/-- Reading such fields one after another leaves the attributes to be set before or after. -/
theorem foldl_read_withAttributes (values : Field → List String) (attributes : Dimensions)
    {some : List Field} (apart : ∀ field ∈ some, field.ApartFromAttributes)
    (record : DeviceRecord) :
    some.foldl (fun known field => field.read (values field) known)
        (record.withAttributes attributes) =
      (some.foldl (fun known field => field.read (values field) known) record).withAttributes
        attributes := by
  induction some generalizing record with
  | nil => rfl
  | cons field others inductionHypothesis =>
    have parts := List.forall_mem_cons.mp apart
    rw [List.foldl_cons, List.foldl_cons, parts.1.read, inductionHypothesis parts.2]

end Projection

/-- Dimensions with the pools in front that the lab manages. -/
def Dimensions.withPoolsFirst (dimensions : Dimensions) : Dimensions :=
  dimensions.map fun key values =>
    if key = Projection.poolField.key then Projection.poolsFirst values else values

namespace Dimensions

open Projection

theorem valuesAt_withPoolsFirst (dimensions : Dimensions) (key : String) :
    dimensions.withPoolsFirst.valuesAt key =
      if key = poolField.key then poolsFirst (dimensions.valuesAt key)
      else dimensions.valuesAt key := by
  rw [withPoolsFirst, valuesAt, Table.get?_map, valuesAt]
  cases dimensions.get? key with
  | none => exact (ite_self _).symm
  | some values => rfl

theorem filled_withPoolsFirst {dimensions : Dimensions} (filled : dimensions.Filled) :
    dimensions.withPoolsFirst.Filled := by
  intro key found
  rw [withPoolsFirst, Table.get?_map] at found
  obtain ⟨values, present, vacant⟩ := Option.map_eq_some_iff.mp found
  have nothing : values = [] := by
    split at vacant
    · exact List.Perm.eq_nil (vacant ▸ (perm_poolsFirst values).symm)
    · exact vacant
  exact filled key (nothing ▸ present)

end Dimensions

namespace DeviceRecord

open Projection
open Dimensions (cleanValues)

/-- A field of the record that dimensions tell of is read from the values under its key. -/
theorem write_ofDimensions (dimensions : Dimensions) : ∀ field ∈ fields,
    field.write (ofDimensions dimensions) =
      field.write (field.read (dimensions.valuesAt field.key) {}) := by
  simp only [fields, textFields, flagFields, hardwareFields, labelFields, countFields, poolField,
    List.forall_mem_append]
  refine ⟨⟨⟨⟨⟨?_, ?_⟩, ?_⟩, ?_⟩, ?_⟩, ?_⟩
  all_goals
    repeat refine List.forall_mem_cons.mpr ⟨rfl, ?_⟩
    exact List.forall_mem_nil _

/-- The parts of the record that dimensions tell of are read one after another, whatever the
attributes are. -/
theorem withAttributes_ofDimensions (dimensions attributes : Dimensions) :
    (ofDimensions dimensions).withAttributes attributes =
      fields.foldl (fun known field => field.read (dimensions.valuesAt field.key) known)
        { attributes := attributes } :=
  (foldl_read_withAttributes (fun field => dimensions.valuesAt field.key) attributes
    apartFromAttributes _).symm

/-- The attributes of the record that dimensions tell of are what is under keys that
attributes may have. -/
theorem attributes_ofDimensions (dimensions : Dimensions) :
    (ofDimensions dimensions).attributes = dimensions.filter fun key _ => !isReserved key := by
  rw [← remaining_eq]
  exact congrArg attributes (withAttributes_ofDimensions dimensions (remaining dimensions)).symm

/-- The entries of a projection before they are cleaned. -/
def entries (record : DeviceRecord) : List (String × List String) :=
  fields.map (fun field => (field.key, field.write record)) ++
    (record.attributes.filter fun key _ => !isReserved key).toList

/-- The entries of a projection have different keys: no attribute has that of a field. -/
theorem nodup_entries (record : DeviceRecord) : (record.entries.map (·.1)).Nodup := by
  rw [entries, List.map_append, List.map_map]
  refine List.nodup_append.mpr ⟨nodup_keys, Table.nodup_keys _, ?_⟩
  rintro key ofField other ofAttribute rfl
  obtain ⟨field, member, same⟩ := List.mem_map.mp ofField
  obtain ⟨entry, kept, rfl⟩ := List.mem_map.mp ofAttribute
  have reserved := isReserved_iff.mpr ⟨field, member, same⟩
  have free : (!isReserved entry.1) = true := (List.mem_filter.mp kept).2
  rw [reserved] at free
  cases free

/-- A projection has the values of a field under its key. -/
theorem valuesAt_field (record : DeviceRecord) {field : Field} (member : field ∈ fields) :
    record.project.valuesAt field.key = cleanValues (field.write record) := by
  have present : (field.key, field.write record) ∈ record.entries :=
    List.mem_append_left _ (List.mem_map.mpr ⟨field, member, rfl⟩)
  exact Dimensions.valuesAt_clean_ofList record.nodup_entries present (key_ne_empty field member)

/-- Under a key of no field, a projection has the values of the attributes. -/
theorem valuesAt_attribute (record : DeviceRecord) {key : String} (free : isReserved key = false) :
    record.project.valuesAt key =
      if key = "" then [] else cleanValues (Dimensions.valuesAt record.attributes key) := by
  have same : (Table.ofList record.entries).get? key = record.attributes.get? key := by
    apply Option.ext
    intro values
    have ofNoField : (key, values) ∉
        fields.map (fun field => (field.key, field.write record)) := by
      intro present
      obtain ⟨field, member, equal⟩ := List.mem_map.mp present
      have reserved := isReserved_iff.mpr ⟨field, member, (Prod.mk.inj equal).1⟩
      rw [free] at reserved
      cases reserved
    rw [Table.get?_ofList_iff record.nodup_entries, entries, List.mem_append,
      or_iff_right ofNoField, Table.mem_toList_iff, Table.get?_filter, Option.filter_eq_some_iff]
    simp [free]
  change (Dimensions.clean (Table.ofList record.entries)).valuesAt key = _
  rw [Dimensions.valuesAt_clean, Dimensions.valuesAt, same]
  rfl

/-- The self-serve pools of a record that its critical pools do not name, each once. -/
def furtherPools (record : DeviceRecord) : List String :=
  (cleanValues record.selfServePools).filter (· ∉ Form.labels.write record.criticalPools)

/-- No further pool that is named like one that the lab manages comes after one that is
not. -/
def PoolsInOrder (record : DeviceRecord) : Prop :=
  record.furtherPools.Pairwise fun earlier later =>
    names CriticalPool later = true → names CriticalPool earlier = true

/-- The pools of a projection are in order exactly when the further pools of the record
are. -/
theorem poolsFirst_valuesAt_iff (record : DeviceRecord) :
    poolsFirst (record.project.valuesAt poolField.key) = record.project.valuesAt poolField.key ↔
      record.PoolsInOrder := by
  have pools : record.project.valuesAt poolField.key =
      cleanValues (Form.labels.write record.criticalPools) ++ record.furtherPools :=
    (record.valuesAt_field mem_poolField).trans (Dimensions.cleanValues_append _ _)
  have managed : ∀ pool ∈ cleanValues (Form.labels.write record.criticalPools),
      names CriticalPool pool = true := fun pool present =>
    Form.names_of_mem_write (Dimensions.mem_cleanValues.mp present).1
  rw [poolsFirst, filter_append_filter_eq_iff, pools, List.pairwise_append]
  constructor
  · rintro ⟨_, further, _⟩
    exact further
  · intro further
    refine ⟨?_, further, fun earlier present later _ _ => managed earlier present⟩
    exact List.pairwise_of_forall_mem_list fun earlier present later _ _ => managed earlier present

/-- The second projection has the pools of the first with those in front that the lab
manages. -/
theorem valuesAt_again_pools (record : DeviceRecord) :
    (ofDimensions record.project).project.valuesAt poolField.key =
      poolsFirst (record.project.valuesAt poolField.key) := by
  rw [valuesAt_field _ mem_poolField, write_ofDimensions _ poolField mem_poolField,
    valuesAt_field record mem_poolField]
  exact write_read_pools_clean (Dimensions.nodup_cleanValues _)
    (Dimensions.empty_notMem_cleanValues _)

/-- The second projection has the values of the first under every other key. -/
theorem valuesAt_again (record : DeviceRecord) {key : String} (other : key ≠ poolField.key) :
    (ofDimensions record.project).project.valuesAt key = record.project.valuesAt key := by
  cases reserved : isReserved key with
  | true =>
    obtain ⟨field, member, rfl⟩ := isReserved_iff.mp reserved
    rcases settled_or_pools field member with rfl | settled
    · exact absurd rfl other
    · rw [valuesAt_field _ member, write_ofDimensions _ field member, valuesAt_field record member]
      exact settled record
  | false =>
    have carried : Dimensions.valuesAt (ofDimensions record.project).attributes key =
        record.project.valuesAt key := by
      rw [attributes_ofDimensions,
        Dimensions.valuesAt_filter record.project fun key => !isReserved key]
      simp [reserved]
    rw [valuesAt_attribute _ reserved, carried, valuesAt_attribute record reserved]
    split
    · rfl
    · exact Dimensions.cleanValues_cleanValues _

/-- Projecting the record that a projection tells of puts the pools in front that the lab
manages, and changes nothing else. So it gives the same dimensions exactly when the
further pools of the record are in order. -/
theorem project_ofDimensions_project (record : DeviceRecord) :
    (ofDimensions record.project).project = record.project.withPoolsFirst ∧
      ((ofDimensions record.project).project = record.project ↔ record.PoolsInOrder) := by
  have first : record.project.Filled := Dimensions.filled_clean _
  have again : (ofDimensions record.project).project = record.project.withPoolsFirst := by
    refine Dimensions.eq_of_valuesAt (Dimensions.filled_clean _)
      (Dimensions.filled_withPoolsFirst first) fun key => ?_
    rw [Dimensions.valuesAt_withPoolsFirst]
    by_cases pools : key = poolField.key
    · rw [if_pos pools, pools]
      exact record.valuesAt_again_pools
    · rw [if_neg pools]
      exact record.valuesAt_again pools
  refine ⟨again, ?_⟩
  rw [← record.poolsFirst_valuesAt_iff, ← record.valuesAt_again_pools]
  constructor
  · intro same
    rw [same]
  · intro same
    refine Dimensions.eq_of_valuesAt (Dimensions.filled_clean _) first fun key => ?_
    by_cases pools : key = poolField.key
    · rw [pools]
      exact same
    · exact record.valuesAt_again pools

/-- A device with a self-serve pool that is named like one that the lab manages, after
another one. -/
def sharingPoolName : DeviceRecord where
  selfServePools := ["faft-test", "DUT_POOL_CQ"]

theorem project_sharingPoolName :
    sharingPoolName.project.valuesAt "label-pool" = ["faft-test", "DUT_POOL_CQ"] ∧
      (ofDimensions sharingPoolName.project).project.valuesAt "label-pool" =
        ["DUT_POOL_CQ", "faft-test"] ∧
      (ofDimensions sharingPoolName.project).project ≠ sharingPoolName.project := by
  have first : sharingPoolName.project.valuesAt "label-pool" = ["faft-test", "DUT_POOL_CQ"] :=
    (valuesAt_field sharingPoolName mem_poolField).trans (by decide +kernel)
  have second : (ofDimensions sharingPoolName.project).project.valuesAt "label-pool" =
      ["DUT_POOL_CQ", "faft-test"] := by
    refine (valuesAt_again_pools sharingPoolName).trans ?_
    change poolsFirst (sharingPoolName.project.valuesAt "label-pool") = _
    rw [first]
    decide +kernel
  refine ⟨first, second, fun same => ?_⟩
  rw [same, first] at second
  exact absurd second (by decide)

end DeviceRecord

end StableFleet
