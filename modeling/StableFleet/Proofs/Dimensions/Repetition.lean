import StableFleet.Proofs.Dimensions.Numbering

/-!
# What stands in the place of a value

Values are listed in their own places. What stands in the place of a value is told by the
values before it: the value itself if it is not among them, and else the value with one of its
free numbers, so many of which come before that one as there were repetitions before. Hence the
repetitions of a value have its free numbers from the least on, in their order and with none
left out. If no value looks like one of these, all numbers are free, and the numbers count the
occurrences.
-/

namespace StableFleet.SchedulingUnit

section Occurrences

variable {values : List String} {value : String} {place : Nat}

/-- An occurrence is counted after its place. -/
theorem count_take_succ (values : List String) (value : String) (place : Nat) :
    (values.take (place + 1)).count value =
      (values.take place).count value + if values[place]? = some value then 1 else 0 := by
  rw [List.take_add_one, List.count_append]
  cases values[place]? with
  | none => simp
  | some other => simp [List.count_singleton]

/-- Fewer occurrences come before an earlier one. -/
theorem count_take_lt {later : Nat} (here : values[place]? = some value) (before : place < later) :
    (values.take place).count value < (values.take later).count value := by
  have next := count_take_succ values value place
  rw [if_pos here] at next
  have more : (values.take (place + 1)).count value ≤ (values.take later).count value :=
    (List.take_sublist_take_left before).count_le value
  omega

/-- The occurrences before a place have all ranks below their number. -/
theorem exists_occurrence {rank : Nat} (less : rank < (values.take place).count value) :
    ∃ earlier, earlier < place ∧ values[earlier]? = some value ∧
      (values.take earlier).count value = rank := by
  induction place with
  | zero => simp at less
  | succ place inductionHypothesis =>
    rw [count_take_succ] at less
    by_cases here : values[place]? = some value ∧ (values.take place).count value = rank
    · exact ⟨place, Nat.lt_succ_self place, here⟩
    · have earlier : rank < (values.take place).count value := by
        by_cases found : values[place]? = some value
        · rw [if_pos found] at less
          have other : (values.take place).count value ≠ rank := fun same => here ⟨found, same⟩
          omega
        · rwa [if_neg found, Nat.add_zero] at less
      obtain ⟨earlier, before, found⟩ := inductionHypothesis earlier
      exact ⟨earlier, Nat.lt_succ_of_lt before, found⟩

end Occurrences

section Numbers

variable {texts seen : List String} {value : String} {number : Nat}

/-- A numbered value is longer than the value. -/
theorem numbered_ne (value : String) (number : Nat) : numbered value number ≠ value := by
  intro same
  have lengths := congrArg String.length same
  have mark : "_".length = 1 := rfl
  simp only [numbered, String.length_append, mark] at lengths
  omega

/-- A numbered value stands only for a repetition, and its number is told by the repetitions
before. -/
theorem Stands.ranked {text : String} (stands : Stands texts seen value text)
    (same : text = numbered value number) : 2 ≤ number ∧ numbered value number ∉ texts ∧
      freeBefore texts value number + 1 = seen.count value := by
  cases stands with
  | literal fresh => exact absurd same.symm (numbered_ne value number)
  | repetition other again counted free rank =>
    obtain ⟨_, rfl⟩ := numbered_injective same
    exact ⟨counted, free, rank⟩

/-- Free numbers with fewer free ones before them are less. -/
theorem lt_of_freeBefore_lt {other : Nat}
    (less : freeBefore texts value number < freeBefore texts value other) : number < other := by
  apply Decidable.byContradiction
  intro reversed
  have more : freeBefore texts value other ≤ freeBefore texts value number :=
    freeBefore_mono (Nat.le_of_not_lt reversed)
  omega

/-- If no text looks like a numbered value, all numbers from two on are free. -/
theorem freeBefore_of_free (free : ∀ number, 2 ≤ number → numbered value number ∉ texts)
    (further : Nat) : freeBefore texts value (further + 2) = further := by
  induction further with
  | zero => simp [freeBefore, List.range_succ]
  | succ further inductionHypothesis =>
    have counted : 2 ≤ further + 2 := Nat.le_add_left 2 further
    rw [Nat.add_right_comm, freeBefore_succ, inductionHypothesis, if_pos ⟨counted, free _ counted⟩]

end Numbers

/-- In the place of each of the values that are left, there is what stands for it. -/
theorem getElem?_distinctFrom {texts seen taken rest : List String} {value : String} {place : Nat}
    (takes : Takes texts seen taken) (within : seen ++ rest ⊆ texts)
    (here : rest[place]? = some value) :
    ∃ text, (distinctFrom texts taken rest)[place]? = some text ∧
      Stands texts (seen ++ rest.take place) value text := by
  induction rest generalizing seen taken place with
  | nil => simp at here
  | cons head rest inductionHypothesis =>
    obtain ⟨next, chosen, listed⟩ := distinctFrom_cons texts taken head rest
    have before : seen ⊆ texts := fun _ present => within (List.mem_append_left _ present)
    have literal : head ∈ texts := within (List.mem_append_right _ List.mem_cons_self)
    have stands := takes.stands before literal chosen
    rw [listed]
    cases place with
    | zero =>
      obtain rfl : head = value := Option.some.inj here
      exact ⟨next, rfl, by simpa using stands⟩
    | succ place =>
      rw [List.append_cons] at within
      rw [List.take_succ_cons, List.append_cons]
      exact inductionHypothesis (takes.next stands) within here

theorem length_distinctFrom (texts taken rest : List String) :
    (distinctFrom texts taken rest).length = rest.length := by
  induction rest generalizing taken with
  | nil => rfl
  | cons value rest inductionHypothesis =>
    obtain ⟨next, _, listed⟩ := distinctFrom_cons texts taken value rest
    rw [listed, List.length_cons, List.length_cons, inductionHypothesis]

section Places

variable {values : List String} {value : String} {place : Nat}

/-- In the place of each value there is what stands for it. -/
theorem getElem?_distinct (here : values[place]? = some value) :
    ∃ text, (distinct values)[place]? = some text ∧
      Stands values (values.take place) value text :=
  getElem?_distinctFrom (takes_nothing values) (List.Subset.refl values) here

theorem listed_of_fresh (here : values[place]? = some value) (fresh : value ∉ values.take place) :
    (distinct values)[place]? = some value := by
  obtain ⟨text, found, stands⟩ := getElem?_distinct here
  cases stands with
  | literal => exact found
  | repetition _ again => exact absurd again fresh

/-- In the place of a repetition there is a free number of its rank. -/
theorem listed_of_again (here : values[place]? = some value) (again : value ∈ values.take place) :
    ∃ number, 2 ≤ number ∧ numbered value number ∉ values ∧
      freeBefore values value number + 1 = (values.take place).count value ∧
      (distinct values)[place]? = some (numbered value number) := by
  obtain ⟨text, found, stands⟩ := getElem?_distinct here
  cases stands with
  | literal fresh => exact absurd again fresh
  | repetition number _ counted free rank => exact ⟨number, counted, free, rank, found⟩

/-- The number in the place of a value is a free one of its rank. -/
theorem ranked_of_listed {number : Nat} (here : values[place]? = some value)
    (listed : (distinct values)[place]? = some (numbered value number)) :
    2 ≤ number ∧ numbered value number ∉ values ∧
      freeBefore values value number + 1 = (values.take place).count value := by
  obtain ⟨text, found, stands⟩ := getElem?_distinct here
  exact stands.ranked (Option.some.inj (found.symm.trans listed))

/-- A free number that has a rank before a place has been listed there. -/
theorem exists_listed {number : Nat} (counted : 2 ≤ number) (free : numbered value number ∉ values)
    (less : freeBefore values value number + 1 < (values.take place).count value) :
    ∃ earlier, earlier < place ∧ values[earlier]? = some value ∧
      (distinct values)[earlier]? = some (numbered value number) := by
  obtain ⟨earlier, sooner, found, rank⟩ := exists_occurrence less
  have again : value ∈ values.take earlier := List.count_pos_iff.mp (by omega)
  obtain ⟨other, counted', free', rank', listed⟩ := listed_of_again found again
  have same : other = number := eq_of_freeBefore_eq counted' free' counted free (by omega)
  exact ⟨earlier, sooner, found, same ▸ listed⟩

/-- If all numbers are free, the number of a repetition counts the occurrences. -/
theorem listed_of_free (here : values[place]? = some value)
    (free : ∀ number, 2 ≤ number → numbered value number ∉ values) :
    (distinct values)[place]? = some (if value ∈ values.take place then
      numbered value ((values.take place).count value + 1) else value) := by
  by_cases again : value ∈ values.take place
  · obtain ⟨number, counted, _, rank, listed⟩ := listed_of_again here again
    have further := freeBefore_of_free free (number - 2)
    rw [Nat.sub_add_cancel counted] at further
    have same : (values.take place).count value + 1 = number := by omega
    rw [if_pos again, listed, same]
  · rw [if_neg again, listed_of_fresh here again]

end Places

/-- A list tells values apart, place by place. -/
structure ToldApart (values listed : List String) : Prop where
  length : listed.length = values.length
  nodup : listed.Nodup
  /-- A value stands as it is where it occurs first. -/
  first : ∀ (place : Nat) (value : String), values[place]? = some value →
    value ∉ values.take place → listed[place]? = some value
  /-- Where it occurs again, it has a number that makes it none of the values. -/
  again : ∀ (place : Nat) (value : String), values[place]? = some value →
    value ∈ values.take place → ∃ number, 2 ≤ number ∧ numbered value number ∉ values ∧
      listed[place]? = some (numbered value number)
  /-- Later repetitions of a value have greater numbers. -/
  ascending : ∀ (place later : Nat) (value : String) (number greater : Nat), place < later →
    values[place]? = some value → listed[place]? = some (numbered value number) →
    values[later]? = some value → listed[later]? = some (numbered value greater) →
    number < greater
  /-- Each number that is less, and makes it none of the values, was for one of its earlier
  repetitions. -/
  least : ∀ (place : Nat) (value : String) (number less : Nat), values[place]? = some value →
    listed[place]? = some (numbered value number) → 2 ≤ less → less < number →
    numbered value less ∉ values → ∃ earlier, earlier < place ∧
      values[earlier]? = some value ∧ listed[earlier]? = some (numbered value less)
  /-- If no value looks like it with a number, the numbers count its occurrences. -/
  counted : ∀ (place : Nat) (value : String), values[place]? = some value →
    (∀ number, 2 ≤ number → numbered value number ∉ values) →
    listed[place]? = some (if value ∈ values.take place then
      numbered value ((values.take place).count value + 1) else value)

/-- The distinct values tell the values apart. -/
theorem distinct_toldApart (values : List String) : ToldApart values (distinct values) := by
  constructor
  case length => exact length_distinctFrom values [] values
  case nodup => exact nodup_distinct values
  case first => exact fun place value here fresh => listed_of_fresh here fresh
  case again =>
    intro place value here again
    obtain ⟨number, counted, free, _, listed⟩ := listed_of_again here again
    exact ⟨number, counted, free, listed⟩
  case ascending =>
    intro place later value number greater before here listed here' listed'
    obtain ⟨_, _, rank⟩ := ranked_of_listed here listed
    obtain ⟨_, _, rank'⟩ := ranked_of_listed here' listed'
    have more := count_take_lt here before
    have less : freeBefore values value number < freeBefore values value greater := by omega
    exact lt_of_freeBefore_lt less
  case least =>
    intro place value number less here listed counted before free
    obtain ⟨_, _, rank⟩ := ranked_of_listed here listed
    have fewer := freeBefore_lt counted free before
    exact exists_listed counted free (by omega)
  case counted => exact fun place value here free => listed_of_free here free

example : distinct ["a", "a", "a_2", "a", "a_2"] = ["a", "a_3", "a_2", "a_4", "a_2_2"] := by
  decide +kernel

end StableFleet.SchedulingUnit
