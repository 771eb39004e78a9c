import StableFleet.Dimensions.Basic
import StableFleet.Proofs.Table.Lookup

/-!
# The values of dimensions

A key that dimensions do not have is no different from one without values, as long as no
key is there without any. So dimensions in which every key has a value are determined by
their values under each key. Cleaning dimensions is cleaning the values under each key but
the empty one, and cleaning once is enough.

Cleaning values erases the repetitions of those that are not empty. What is chosen from them
may be chosen before or after that, as long as no two values give the same.
-/

namespace StableFleet

namespace Dimensions

/-- The values under a key, which are none if the key is not there. -/
def valuesAt (dimensions : Dimensions) (key : String) : List String :=
  (dimensions.get? key).getD []

/-- A value is under a key when the key is there and has it. -/
theorem mem_valuesAt {dimensions : Dimensions} {key value : String} :
    value ∈ dimensions.valuesAt key ↔
      ∃ values, dimensions.get? key = some values ∧ value ∈ values := by
  unfold valuesAt
  cases dimensions.get? key <;> simp

/-- Every key of the dimensions has a value. -/
def Filled (dimensions : Dimensions) : Prop := ∀ key, dimensions.get? key ≠ some []

/-- If every key has a value, a key is there exactly with the values that are under it, if
there are any. -/
theorem Filled.get?_eq {dimensions : Dimensions} (filled : dimensions.Filled) (key : String) :
    dimensions.get? key =
      if dimensions.valuesAt key = [] then none else some (dimensions.valuesAt key) := by
  rw [valuesAt]
  cases found : dimensions.get? key with
  | none => rfl
  | some values =>
    have some : values ≠ [] := fun nothing => filled key (nothing ▸ found)
    exact (if_neg some).symm

/-- Dimensions in which every key has a value are determined by their values. -/
theorem eq_of_valuesAt {left right : Dimensions} (leftFilled : left.Filled)
    (rightFilled : right.Filled) (same : ∀ key, left.valuesAt key = right.valuesAt key) :
    left = right := by
  apply Table.ext
  intro key
  rw [leftFilled.get?_eq, rightFilled.get?_eq, same key]

/-- If every key has a value, a key is missing exactly when there are no values under it. -/
theorem Filled.get?_eq_none_iff {dimensions : Dimensions} (filled : dimensions.Filled)
    {key : String} : dimensions.get? key = none ↔ dimensions.valuesAt key = [] := by
  rw [filled.get?_eq]
  simp

/-- If every key has a value, the keys are those under which there are values. -/
theorem Filled.mem_keys_iff {dimensions : Dimensions} (filled : dimensions.Filled) {key : String} :
    key ∈ dimensions.keys ↔ dimensions.valuesAt key ≠ [] := by
  rw [Table.mem_keys_iff, Table.contains, Option.isSome_iff_ne_none, ne_eq, ne_eq,
    filled.get?_eq_none_iff]

/-- Keeping some keys keeps their values. -/
theorem valuesAt_filter (dimensions : Dimensions) (keep : String → Bool) (key : String) :
    valuesAt (dimensions.filter fun key _ => keep key) key =
      if keep key then dimensions.valuesAt key else [] := by
  rw [valuesAt, Table.get?_filter, valuesAt]
  cases dimensions.get? key with
  | none => simp
  | some values => cases keep key <;> rfl

/-- Values without repetitions and without empty ones stay as they are. -/
theorem cleanValues_of_nodup {values : List String} (distinct : values.Nodup)
    (nonempty : "" ∉ values) : cleanValues values = values := by
  have all : values.filter (fun value => !value.isEmpty) = values := by
    refine List.filter_eq_self.mpr fun value present => ?_
    have some : value ≠ "" := fun same => nonempty (same ▸ present)
    simpa using some
  rw [cleanValues, all, firsts_of_nodup distinct]

/-- A single value that is not empty is clean. -/
theorem cleanValues_singleton {value : String} (nonempty : value ≠ "") :
    cleanValues [value] = [value] :=
  cleanValues_of_nodup (List.pairwise_singleton _ value)
    (fun present => nonempty (List.mem_singleton.mp present).symm)

/-- The values that are kept have no repetitions. -/
theorem nodup_cleanValues (values : List String) : (cleanValues values).Nodup := firsts_nodup _

theorem empty_notMem_cleanValues (values : List String) : "" ∉ cleanValues values :=
  fun present => (mem_cleanValues.mp present).2 rfl

/-- Cleaning values once is enough. -/
@[simp] theorem cleanValues_cleanValues (values : List String) :
    cleanValues (cleanValues values) = cleanValues values :=
  cleanValues_of_nodup (nodup_cleanValues values) (empty_notMem_cleanValues values)

/-- The first occurrences in two lists in turn are those of the first and, of the second,
those that are not in the first. -/
theorem firsts_append (first second : List String) :
    firsts (first ++ second) = firsts first ++ (firsts second).filter (· ∉ first) := by
  induction first with
  | nil => exact (List.filter_eq_self.mpr fun _ _ => by simp).symm
  | cons head rest inductionHypothesis =>
    rw [List.cons_append, firsts, inductionHypothesis, List.filter_append, List.filter_filter,
      firsts, List.cons_append]
    congr 2
    apply List.filter_congr
    intro value _
    simp

/-- The clean values of two lists in turn are those of the first and, of the second, those
that are not in the first. -/
theorem cleanValues_append (first second : List String) :
    cleanValues (first ++ second) =
      cleanValues first ++ (cleanValues second).filter (· ∉ first) := by
  rw [cleanValues, List.filter_append, firsts_append]
  congr 1
  apply List.filter_congr
  intro value present
  have nonempty := (mem_cleanValues.mp present).2
  simp [nonempty]

/-- Cleaning dimensions cleans the values under each key but the empty one. -/
theorem valuesAt_clean (dimensions : Dimensions) (key : String) :
    (clean dimensions).valuesAt key =
      if key = "" then [] else cleanValues (dimensions.valuesAt key) := by
  rw [clean, valuesAt, Table.get?_filter, Table.get?_map, valuesAt]
  cases found : dimensions.get? key with
  | none => simp [cleanValues, firsts]
  | some values =>
    by_cases nameless : key = ""
    · simp [nameless, Option.filter]
    · by_cases vacant : cleanValues values = []
      · simp [nameless, vacant, Option.filter]
      · simp [nameless, vacant, Option.filter]

/-- Dimensions made of entries with different keys have the clean values of each entry under
its key. -/
theorem valuesAt_clean_ofList {entries : List (String × List String)}
    (distinct : (entries.map (·.1)).Nodup) {key : String} {values : List String}
    (present : (key, values) ∈ entries) (named : key ≠ "") :
    (clean (Table.ofList entries)).valuesAt key = cleanValues values := by
  rw [valuesAt_clean, if_neg named, valuesAt, (Table.get?_ofList_iff distinct).mpr present,
    Option.getD_some]

/-- In clean dimensions every key has a value. -/
theorem filled_clean (dimensions : Dimensions) : (clean dimensions).Filled := by
  intro key found
  rw [clean, Table.get?_filter, Option.filter_eq_some_iff] at found
  simpa using found.2

section Repetitions

variable {α β : Type} [DecidableEq α] [DecidableEq β]

/-- Choosing from values may be done before or after erasing repetitions, if what is chosen
tells where it comes from. -/
theorem filterMap_eraseDups {choose : α → Option β}
    (apart : ∀ left right chosen, choose left = some chosen → choose right = some chosen →
      left = right) :
    ∀ values : List α, values.eraseDups.filterMap choose = (values.filterMap choose).eraseDups
  | [] => rfl
  | value :: values => by
    have rest := filterMap_eraseDups apart (values.filter fun other => !other == value)
    rw [List.eraseDups_cons, List.filterMap_cons, List.filterMap_cons, rest, List.filterMap_filter]
    cases chosen : choose value with
    | none =>
      -- The repetitions of the value give nothing either.
      refine congrArg List.eraseDups (congrArg (List.filterMap · values) ?_)
      funext other
      by_cases same : other = value
      · simp [same, chosen]
      · simp [same]
    | some result =>
      dsimp only
      rw [List.eraseDups_cons, List.filter_filterMap]
      congr 3
      funext other
      by_cases same : other = value
      · simp [same, chosen, Option.filter]
      · cases found : choose other with
        | none => simp [same]
        | some another =>
          have different : another ≠ result := fun equal =>
            same (apart _ _ _ (equal ▸ found) chosen)
          simp [same, different, Option.filter]
termination_by values => values.length
decreasing_by
  exact Nat.lt_succ_of_le (List.length_filter_le _ values)

/-- Some values may be kept before or after erasing repetitions. -/
theorem filter_eraseDups (keep : α → Bool) (values : List α) :
    values.eraseDups.filter keep = (values.filter keep).eraseDups := by
  rw [← List.filterMap_eq_filter, filterMap_eraseDups]
  intro left right chosen first second
  rw [Option.guard_eq_some_iff] at first second
  exact first.1.trans second.1.symm

end Repetitions

/-- The first occurrences are what is left when repetitions are erased. -/
theorem firsts_eq_eraseDups (values : List String) : firsts values = values.eraseDups := by
  induction values with
  | nil => rfl
  | cons value values inductionHypothesis =>
    rw [firsts, inductionHypothesis, filter_eraseDups, List.eraseDups_cons]
    congr 3
    funext other
    by_cases same : other = value
    · simp [same]
    · simp [same]

/-- The values that are kept are those that are not empty, with repetitions erased. -/
theorem cleanValues_eq (values : List String) :
    cleanValues values = (values.filter (· ≠ "")).eraseDups := by
  rw [cleanValues, firsts_eq_eraseDups]
  congr 2
  funext value
  by_cases same : value = ""
  · simp [same]
  · simp [same]

end Dimensions

end StableFleet
