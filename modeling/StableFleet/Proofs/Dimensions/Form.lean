import StableFleet.Dimensions.Projection
import StableFleet.Proofs.Dimensions.Values
import StableFleet.Proofs.Text.Decimal

/-!
# The forms in which parts of a record are written

What a part of a record is written as is cleaned before it is read again. Texts, flags,
numbers, single labels and the health of parts come back as they were. Several labels come
back without those that are not set and without repetitions, and are then written as before.
So each of these forms is settled: what was written and read once is written the same again.

Pools are not settled. They come back in two groups, each without repetitions: those that are
named like one that the lab manages, whichever group they were in, and the others.
-/

namespace StableFleet.Projection

open Dimensions (cleanValues)

section Numerals

/-- Different numbers have different numerals. -/
theorem numeral_injective {left right : Nat} (same : numeral left = numeral right) :
    left = right := by
  have digits : Text.Decimal.digits left = Text.Decimal.digits right := String.ofList_inj.mp same
  rw [← Text.Decimal.value_digits left, digits, Text.Decimal.value_digits]

/-- A numeral has a digit. -/
theorem numeral_ne_empty (number : Nat) : numeral number ≠ "" := by
  intro same
  have digits : Text.Decimal.digits number = [] := String.ofList_inj.mp same
  exact Text.Decimal.digits_ne_nil number digits

/-- A number is read from its numeral, if it fits a word of 32 bits. -/
theorem count?_numeral {number : Nat} (fits : number < UInt32.size) :
    count? (numeral number) = some number := by
  have value := Text.Decimal.value_digits number
  have digits : ∀ char ∈ Text.Decimal.digits number, char.isDigit = true :=
    fun char present => Text.Decimal.isDigit_of_mem_digits present
  rw [count?, numeral, String.toList_ofList]
  cases written : Text.Decimal.digits number with
  | nil => exact absurd written (Text.Decimal.digits_ne_nil number)
  | cons first rest =>
    rw [written] at value digits
    -- A digit is no plus, so none is taken off.
    have unsigned : first ≠ '+' := by
      rintro rfl
      exact absurd (digits '+' List.mem_cons_self) (by decide)
    split
    · next head =>
      exact absurd (List.cons.inj head).1 unsigned
    · rw [value]
      simp [List.all_eq_true.mpr digits, fits]

/-- The greatest of the numerals up to a number is that of the number. -/
theorem greatestCount_upTo {number : Nat} (fits : number < UInt32.size) :
    greatestCount ((List.range number).map fun before => numeral (before + 1)) = number := by
  induction number with
  | zero => rfl
  | succ number inductionHypothesis =>
    have before := inductionHypothesis (Nat.lt_of_succ_lt fits)
    rw [greatestCount] at before
    rw [greatestCount, List.range_succ, List.map_append, List.filterMap_append, List.foldl_append,
      before]
    simp [count?_numeral fits]

end Numerals

/-- A text is read as a label that is set exactly when it is the name of that label. -/
theorem setLabel?_eq_some_iff {α : Type} [Label α] [DecidableEq α] {text : String} {label : α} :
    setLabel? text = some label ↔ text = Label.name label ∧ Label.isSet label = true := by
  rw [setLabel?, Option.filter_eq_some_iff, Label.read?_eq_some_iff]

/-- Whether a text is the name of a label that is set. -/
def names (α : Type) [Label α] [DecidableEq α] (text : String) : Bool :=
  (setLabel? (α := α) text).isSome

/-- Whether every label of a kind has a name. -/
def Named (α : Type) [Label α] : Prop := ∀ label : α, Label.name label ≠ ""

/-- Labels have names if those that are listed have. -/
theorem named_of_all {α : Type} [Label α]
    (all : ∀ label ∈ Label.all (α := α), Label.name label ≠ "") : Named α :=
  fun label => all label (Label.mem_all label)

/-- The labels that are set, each once. -/
def setLabels {α : Type} [Label α] [DecidableEq α] (given : List α) : List α :=
  (given.filter Label.isSet).eraseDups

namespace Form

variable {α : Type}

/-- What was written comes back as it was. -/
def Faithful (form : Form α) : Prop := ∀ given, form.read (cleanValues (form.write given)) = given

/-- What was written and read once is written the same again. -/
def Settled (form : Form α) : Prop := ∀ given,
  cleanValues (form.write (form.read (cleanValues (form.write given)))) =
    cleanValues (form.write given)

theorem Faithful.settled {form : Form α} (faithful : form.Faithful) : form.Settled := by
  intro given
  rw [faithful given]

theorem faithful_text : text.Faithful := by
  intro given
  by_cases nothing : given = ""
  · subst nothing
    rfl
  · have written : text.write given = [given] := by simp [text, nothing]
    rw [written, Dimensions.cleanValues_singleton nothing]
    simp [text, nothing]

theorem faithful_flag : flag.Faithful := by
  intro given
  cases given with
  | false => rfl
  | true => decide +kernel

theorem faithful_hardware : hardware.Faithful := by
  intro given
  cases given <;> decide +kernel

theorem faithful_count : count.Faithful := by
  intro given
  by_cases nothing : given = 0
  · subst nothing
    rfl
  · have written : count.write given = [numeral given.toNat] := by simp [count, nothing]
    have read : greatestCount [numeral given.toNat] = given.toNat := by
      simp [greatestCount, count?_numeral given.toNat_lt_size]
    rw [written, Dimensions.cleanValues_singleton (numeral_ne_empty _)]
    change UInt32.ofNat (greatestCount [numeral given.toNat]) = given
    rw [read, UInt32.ofNat_toNat]

theorem faithful_upTo : upTo.Faithful := by
  intro given
  have distinct : (upTo.write given).Nodup := by
    refine List.pairwise_map.mpr (List.nodup_range.imp ?_)
    intro left right different same
    have successors := numeral_injective same
    exact different (by omega)
  have nonempty : "" ∉ upTo.write given := by
    intro present
    obtain ⟨before, _, same⟩ := List.mem_map.mp present
    exact numeral_ne_empty _ same
  rw [Dimensions.cleanValues_of_nodup distinct nonempty]
  change UInt32.ofNat (greatestCount (upTo.write given)) = given
  rw [upTo, greatestCount_upTo given.toNat_lt_size, UInt32.ofNat_toNat]

section Labels

variable [Label α] [DecidableEq α]

/-- Labels that are read are written as those of the values that name one. -/
theorem write_read_labels (values : List String) :
    (labels (α := α)).write ((labels (α := α)).read values) = values.filter (names α) := by
  induction values with
  | nil => rfl
  | cons value values inductionHypothesis =>
    have read : (labels (α := α)).read (value :: values) =
        (setLabel? value).toList ++ (labels (α := α)).read values := by
      change (value :: values).filterMap setLabel? = _
      rw [List.filterMap_cons]
      cases setLabel? (α := α) value <;> rfl
    have appended (first second : List α) : (labels (α := α)).write (first ++ second) =
        (labels (α := α)).write first ++ (labels (α := α)).write second := by
      simp [labels]
    rw [read, appended, inductionHypothesis, List.filter_cons]
    cases found : setLabel? (α := α) value with
    | none => simp [names, found, labels]
    | some label =>
      obtain ⟨rfl, set⟩ := setLabel?_eq_some_iff.mp found
      simp [names, found, labels, set]

/-- Labels are written as names. -/
theorem names_of_mem_write {given : List α} {value : String}
    (present : value ∈ (labels (α := α)).write given) : names α value = true := by
  obtain ⟨label, member, rfl⟩ := List.mem_map.mp present
  have set := (List.mem_filter.mp member).2
  exact Option.isSome_iff_exists.mpr ⟨label, setLabel?_eq_some_iff.mpr ⟨rfl, set⟩⟩

theorem settled_labels : (labels (α := α)).Settled := by
  intro given
  have all : (cleanValues ((labels (α := α)).write given)).filter (names α) =
      cleanValues ((labels (α := α)).write given) :=
    List.filter_eq_self.mpr fun value present =>
      names_of_mem_write (Dimensions.mem_cleanValues.mp present).1
  rw [write_read_labels, all, Dimensions.cleanValues_cleanValues]

/-- Labels are read from their names, if they are set. -/
theorem read_write_labels (given : List α) :
    labels.read (labels.write given) = given.filter Label.isSet := by
  change ((given.filter Label.isSet).map Label.name).filterMap setLabel? = _
  induction given with
  | nil => rfl
  | cons label given inductionHypothesis =>
    cases set : Label.isSet label with
    | false => simpa [set] using inductionHypothesis
    | true =>
      have read : setLabel? (Label.name label) = some label :=
        setLabel?_eq_some_iff.mpr ⟨rfl, set⟩
      simpa [set, read] using inductionHypothesis

/-- From clean values each label is read once. -/
theorem read_clean_labels (named : Named α) (values : List String) :
    (labels (α := α)).read (cleanValues values) = (labels.read values).eraseDups := by
  have apart (left right : String) (label : α) (first : setLabel? left = some label)
      (second : setLabel? right = some label) : left = right :=
    (setLabel?_eq_some_iff.mp first).1.trans (setLabel?_eq_some_iff.mp second).1.symm
  -- No label is read from an empty value.
  have vacant : setLabel? (α := α) "" = none := by
    cases found : setLabel? (α := α) "" with
    | none => rfl
    | some label => exact absurd (setLabel?_eq_some_iff.mp found).1.symm (named label)
  change (cleanValues values).filterMap setLabel? = (values.filterMap setLabel?).eraseDups
  rw [Dimensions.cleanValues_eq, Dimensions.filterMap_eraseDups apart, List.filterMap_filter]
  congr 2
  funext value
  by_cases nothing : value = ""
  · simp [nothing, vacant]
  · simp [nothing]

/-- Labels come back as those that are set, each once. -/
theorem read_clean_write (named : Named α) (given : List α) :
    labels.read (cleanValues (labels.write given)) = setLabels given := by
  rw [read_clean_labels named, read_write_labels, setLabels]

/-- A single label comes back as it was: if it is not set, no value is written. -/
theorem faithful_label (named : Named α) : (label (α := α)).Faithful := by
  intro given
  change ((labels.read (cleanValues (labels.write [given]))).head?).getD Label.unset = given
  rw [read_clean_labels named, read_write_labels]
  cases set : Label.isSet given with
  | true => simp [set, List.eraseDups_cons]
  | false =>
    have unset : given = Label.unset := by simpa [Label.isSet] using set
    simp [unset, Label.isSet]

end Labels

/-- Pools are read as those that are named like one that the lab manages, and the others. -/
theorem read_pools (values : List String) : pools.read values =
    (labels.read values, values.filter fun pool => pool ≠ "" ∧ ¬ names CriticalPool pool) := by
  refine Prod.ext rfl (List.filter_congr fun pool _ => Bool.eq_iff_iff.mpr ?_)
  simp [names]

/-- Pools are written in two groups: those that the lab manages, and then the others. -/
theorem write_read_pools (values : List String) :
    pools.write (pools.read values) = values.filter (names CriticalPool) ++
      values.filter fun pool => pool ≠ "" ∧ ¬ names CriticalPool pool := by
  rw [read_pools]
  change labels.write (labels.read values) ++ _ = _
  rw [write_read_labels]

/-- Pools come back as those that are named like one that the lab manages, and the others,
each once. -/
theorem read_write_pools (managed : List CriticalPool) (further : List String) :
    pools.read (cleanValues (pools.write (managed, further))) =
      ((managed.filter Label.isSet ++ further.filterMap setLabel?).eraseDups,
        (further.filter fun pool => pool ≠ "" ∧ ¬ names CriticalPool pool).eraseDups) := by
  change pools.read (cleanValues (labels.write managed ++ further)) = _
  rw [read_pools]
  refine Prod.ext ?_ ?_
  · have joined : labels.read (labels.write managed ++ further) =
        managed.filter Label.isSet ++ further.filterMap setLabel? := by
      rw [← read_write_labels]
      exact List.filterMap_append
    exact (read_clean_labels (named_of_all (by decide)) _).trans (congrArg _ joined)
  · -- Those that the lab manages are written by names, so none of them is among the others.
    have none : (labels.write managed).filter (fun pool =>
        (pool ≠ "" ∧ ¬ names CriticalPool pool) && pool ≠ "") = [] :=
      List.filter_eq_nil_iff.mpr fun pool present => by simp [names_of_mem_write present]
    dsimp only
    rw [Dimensions.cleanValues_eq, Dimensions.filter_eraseDups, List.filter_filter,
      List.filter_append, none, List.nil_append]
    refine congrArg _ (List.filter_congr fun pool _ => ?_)
    by_cases nothing : pool = "" <;> simp [nothing]

end Form

end StableFleet.Projection
