import Mathlib.Logic.Relation
import StableFleet.Proofs.Dimensions.Repetition

/-!
# How far numbers are tried

To number values, they are gone through one after another. A value that is taken already gets
a number, which is searched for: numbers are tried in turn until one is free, from two on or,
if the value was given a number before, from the one behind it. Nothing limits how many are
tried. Still the search ends, and the numbers that it tries and gives are no greater than the
number of values.

Each step from one stage to the next is taken apart. All numbers that were passed over for a
value are in use: each makes it one of the values, and another than the value itself, or was
given to it for an earlier repetition. There are fewer of both than there are values, so the
numbers that are tried are bounded, and with every step less is left to do. What has been
listed and what the rest of the values are listed as make up the distinct values at every
stage, so these are what is listed in the end.
-/

namespace StableFleet.SchedulingUnit

section Bound

variable {texts : List String} {value : String} {number : Nat}

/-- The numbers from two on, before a given one, that make a value one of some texts. -/
def usedNumbers (texts : List String) (value : String) (number : Nat) : List Nat :=
  (List.range number).filter fun earlier => 2 ≤ earlier ∧ numbered value earlier ∈ texts

/-- The numbers before a given one are zero and one, those that are free, and those that are
used. -/
theorem le_free_add_used (texts : List String) (value : String) (number : Nat) :
    number ≤ freeBefore texts value number + (usedNumbers texts value number).length + 2 := by
  induction number with
  | zero => exact Nat.zero_le _
  | succ number inductionHypothesis =>
    have used : (usedNumbers texts value (number + 1)).length =
        (usedNumbers texts value number).length +
          if 2 ≤ number ∧ numbered value number ∈ texts then 1 else 0 := by
      simp [usedNumbers, ← List.countP_eq_length_filter, List.range_succ, List.countP_singleton]
    rw [freeBefore_succ, used]
    by_cases counted : 2 ≤ number
    · by_cases literal : numbered value number ∈ texts
      · rw [if_neg fun free => free.2 literal, if_pos ⟨counted, literal⟩]
        omega
      · rw [if_pos ⟨counted, literal⟩]
        omega
    · omega

/-- The numbered values that are among some texts are different texts, and none of them is the
value itself. -/
theorem used_add_count_le (texts : List String) (value : String) (number : Nat) :
    (usedNumbers texts value number).length + texts.count value ≤ texts.length := by
  have distinct : ((usedNumbers texts value number).map (numbered value)).Nodup := by
    refine List.pairwise_map.mpr ((List.nodup_range.filter _).imp ?_)
    intro left right different same
    exact different (numbered_injective same).2
  have within : (usedNumbers texts value number).map (numbered value) ⊆
      texts.filter fun text => ¬ (text == value) := by
    intro text present
    obtain ⟨earlier, counted, rfl⟩ := List.mem_map.mp present
    have literal := (of_decide_eq_true (List.mem_filter.mp counted).2).2
    exact List.mem_filter.mpr ⟨literal, by simpa using numbered_ne value earlier⟩
  have fewer := distinct.length_le_of_subset within
  rw [List.length_map, ← List.countP_eq_length_filter] at fewer
  have whole : texts.length = texts.count value + texts.countP fun text => ¬ (text == value) :=
    texts.length_eq_countP_add_countP (· == value)
  omega

/-- A number before which so few are free is no greater than the number of texts. -/
theorem number_le_length (fewer : freeBefore texts value number + 1 < texts.count value) :
    number ≤ texts.length := by
  have parts := le_free_add_used texts value number
  have used := used_add_count_le texts value number
  omega

end Bound

/-- How far the numbering of values has come: the texts that are taken, the number from which
on each value is tried the next time, and what has been listed. -/
structure Progress where
  taken : List String
  next : String → Nat
  listed : List String

namespace Progress

/-- A text is listed, and taken from then on. -/
def list (progress : Progress) (text : String) : Progress :=
  { progress with taken := text :: progress.taken, listed := progress.listed ++ [text] }

/-- The next time a value is tried from a number on. -/
def remember (progress : Progress) (value : String) (number : Nat) : Progress :=
  { progress with next := fun other => if other = value then number else progress.next other }

end Progress

/-- Where the numbering of values is: between two of them, or trying a number for one. Some
values are left. -/
inductive Stage
  | between (progress : Progress) (rest : List String)
  | trying (progress : Progress) (value : String) (number : Nat) (rest : List String)

/-- One step of numbering values, which are among the texts to keep clear of. -/
inductive Step (texts : List String) : Stage → Stage → Prop
  /-- A value that is not taken is listed as it is. -/
  | literal {progress : Progress} {value : String} {rest : List String}
      (fresh : value ∉ progress.taken) :
      Step texts (.between progress (value :: rest)) (.between (progress.list value) rest)
  /-- For one that is taken, a number is searched for. -/
  | search {progress : Progress} {value : String} {rest : List String}
      (repeated : value ∈ progress.taken) :
      Step texts (.between progress (value :: rest))
        (.trying progress value (progress.next value) rest)
  /-- A number that is in use is passed over. -/
  | pass {progress : Progress} {value : String} {number : Nat} {rest : List String}
      (used : numbered value number ∈ texts ++ progress.taken) :
      Step texts (.trying progress value number rest) (.trying progress value (number + 1) rest)
  /-- One that is free is given to the value. -/
  | give {progress : Progress} {value : String} {number : Nat} {rest : List String}
      (free : numbered value number ∉ texts ++ progress.taken) :
      Step texts (.trying progress value number rest)
        (.between ((progress.list (numbered value number)).remember value (number + 1)) rest)

/-- The stages that numbering some values comes to. In the beginning nothing is taken, and
every value is tried from two on. -/
def Reached (values : List String) : Stage → Prop :=
  Relation.ReflTransGen (Step values) (.between ⟨[], fun _ => 2, []⟩ values)

/-- All numbers from two on, before a given one, are in use for a value. -/
def Passed (texts taken : List String) (value : String) (number : Nat) : Prop :=
  ∀ earlier, 2 ≤ earlier → earlier < number → numbered value earlier ∈ texts ++ taken

section Steps

variable {values seen rest : List String} {progress : Progress} {value : String} {number : Nat}

theorem Passed.succ {taken : List String} (passed : Passed values taken value number)
    (used : numbered value number ∈ values ++ taken) : Passed values taken value (number + 1) := by
  intro earlier counted before
  rcases Nat.lt_succ_iff_lt_or_eq.mp before with less | rfl
  · exact passed earlier counted less
  · exact used

/-- What is taken stays in use. -/
theorem Passed.mono {taken later : List String} (passed : Passed values taken value number)
    (kept : taken ⊆ later) : Passed values later value number := by
  intro earlier counted before
  rcases List.mem_append.mp (passed earlier counted before) with literal | used
  · exact List.mem_append_left _ literal
  · exact List.mem_append_right _ (kept used)

/-- Progress after some of the values, with others left: what is taken is what those are listed
as, the numbers that will not be tried again are in use, and what has been listed is followed
by what is listed for the others. -/
structure Progress.Sound (values seen rest : List String) (progress : Progress) : Prop where
  whole : seen ++ rest = values
  takes : Takes values seen progress.taken
  counted : ∀ value, 2 ≤ progress.next value
  passed : ∀ value, Passed values progress.taken value (progress.next value)
  listed : progress.listed ++ distinctFrom values progress.taken rest = distinct values

theorem Progress.Sound.within (sound : progress.Sound values seen rest) : seen ⊆ values :=
  fun _ present => sound.whole ▸ List.mem_append_left _ present

theorem Progress.Sound.mem (sound : progress.Sound values seen (value :: rest)) :
    value ∈ values :=
  sound.whole ▸ List.mem_append_right _ List.mem_cons_self

/-- Progress stays sound when what may be listed next is listed. -/
theorem Progress.Sound.list {text : String} (sound : progress.Sound values seen (value :: rest))
    (chosen : Next values progress.taken value text) :
    (progress.list text).Sound values (seen ++ [value]) rest := by
  constructor
  case whole => exact (List.append_cons seen value rest).symm.trans sound.whole
  case takes => exact sound.takes.next (sound.takes.stands sound.within sound.mem chosen)
  case counted => exact sound.counted
  case passed => exact fun other => (sound.passed other).mono (List.subset_cons_self _ _)
  case listed =>
    have same := sound.listed
    rw [distinctFrom_of_next chosen, List.append_cons] at same
    exact same

/-- Progress stays sound when a value is not tried again with numbers that are in use. -/
theorem Progress.Sound.remember (sound : progress.Sound values seen rest) (counted : 2 ≤ number)
    (passed : Passed values progress.taken value number) :
    (progress.remember value number).Sound values seen rest := by
  refine ⟨sound.whole, sound.takes, fun other => ?_, fun other => ?_, sound.listed⟩
  · simp only [Progress.remember]
    split
    · exact counted
    · exact sound.counted other
  · simp only [Progress.remember]
    split
    · next same => exact same ▸ passed
    · exact sound.passed other

/-- A stage of sound progress. Where a number is tried for a value, the value is taken, and the
numbers before are in use. -/
inductive Stage.Sound (values : List String) : Stage → Prop
  | between {progress : Progress} {seen rest : List String}
      (sound : progress.Sound values seen rest) : Sound values (.between progress rest)
  | trying {progress : Progress} {seen rest : List String} {value : String} {number : Nat}
      (sound : progress.Sound values seen (value :: rest)) (repeated : value ∈ progress.taken)
      (counted : 2 ≤ number) (passed : Passed values progress.taken value number) :
      Sound values (.trying progress value number rest)

/-- Every step leads from a sound stage to a sound one. -/
theorem Stage.Sound.step {stage later : Stage} (sound : stage.Sound values)
    (step : Step values stage later) : later.Sound values := by
  cases step with
  | literal fresh =>
    cases sound with
    | between sound => exact .between (sound.list (.literal fresh))
  | search repeated =>
    cases sound with
    | between sound => exact .trying sound repeated (sound.counted _) (sound.passed _)
  | pass used =>
    cases sound with
    | trying sound repeated counted passed =>
      exact .trying sound repeated (Nat.le_succ_of_le counted) (passed.succ used)
  | @give progress value number rest free =>
    cases sound with
    | trying sound repeated counted passed =>
      obtain ⟨absent, untaken⟩ := not_or.mp (mt List.mem_append.mpr free)
      have listed := sound.list (.repetition number repeated counted absent untaken passed)
      -- The number that is given is taken now, so it need not be tried again either.
      have kept : progress.taken ⊆ (progress.list (numbered value number)).taken :=
        List.subset_cons_self _ _
      have used : numbered value number ∈ (progress.list (numbered value number)).taken :=
        List.mem_cons_self
      exact .between (listed.remember (Nat.le_succ_of_le counted)
        ((passed.mono kept).succ (List.mem_append_right _ used)))

/-- Every stage that numbering comes to is sound. -/
theorem Reached.sound {stage : Stage} (reached : Reached values stage) : stage.Sound values := by
  induction reached with
  | refl =>
    exact .between ⟨rfl, takes_nothing values, fun _ => Nat.le_refl 2,
      fun _ _ counted before => absurd counted (Nat.not_le_of_lt before), rfl⟩
  | tail _ step inductionHypothesis => exact inductionHypothesis.step step

/-- No number is tried that is greater than how many values there are. -/
theorem Stage.Sound.bounded (sound : (Stage.trying progress value number rest).Sound values) :
    2 ≤ number ∧ number ≤ values.length := by
  cases sound with
  | @trying _ seen _ _ _ sound repeated counted passed =>
    have fewer := freeBefore_lt_count sound.takes sound.within
      (sound.takes.mem_seen sound.mem repeated) passed
    -- The value occurs once more than it has been seen.
    have more : values.count value = seen.count value + (rest.count value + 1) := by
      rw [← sound.whole, List.count_append, List.count_cons_self]
    have less : freeBefore values value number + 1 < values.count value := by omega
    exact ⟨counted, number_le_length less⟩

/-- How much is left to do, in steps at most. -/
def Stage.remaining (values : List String) : Stage → Nat
  | .between _ rest => rest.length * (values.length + 2)
  | .trying _ _ number rest => rest.length * (values.length + 2) + (values.length + 1 - number)

/-- After every step less is left to do. -/
theorem Stage.Sound.remaining_lt {stage later : Stage} (sound : stage.Sound values)
    (step : Step values stage later) : later.remaining values < stage.remaining values := by
  cases step with
  | literal fresh =>
    simp only [Stage.remaining, List.length_cons, Nat.succ_mul]
    omega
  | search repeated =>
    simp only [Stage.remaining, List.length_cons, Nat.succ_mul]
    omega
  | pass used =>
    have bounded := sound.bounded
    simp only [Stage.remaining]
    omega
  | give free =>
    have bounded := sound.bounded
    simp only [Stage.remaining]
    omega

/-- From a sound stage numbering does not go on for ever. -/
theorem Stage.Sound.ends {stage : Stage} (sound : stage.Sound values) :
    Acc (fun later earlier => Step values earlier later) stage := by
  induction left : stage.remaining values using Nat.strongRecOn generalizing stage with
  | ind bound inductionHypothesis =>
    refine .intro stage fun later step => ?_
    exact inductionHypothesis _ (left ▸ sound.remaining_lt step) (sound.step step) rfl

/-- Where no step can be taken from a sound stage, the distinct values have been listed. -/
theorem Stage.Sound.finished {stage : Stage} (sound : stage.Sound values)
    (stuck : ∀ later, ¬ Step values stage later) :
    ∃ progress, stage = .between progress [] ∧ progress.listed = distinct values := by
  cases sound with
  | @between progress seen rest sound =>
    cases rest with
    | nil => exact ⟨progress, rfl, (List.append_nil _).symm.trans sound.listed⟩
    | cons value rest =>
      by_cases repeated : value ∈ progress.taken
      · exact absurd (.search repeated) (stuck _)
      · exact absurd (.literal repeated) (stuck _)
  | @trying progress seen rest value number =>
    by_cases used : numbered value number ∈ values ++ progress.taken
    · exact absurd (.pass used) (stuck _)
    · exact absurd (.give used) (stuck _)

end Steps

/-- Numbering some values ends, and no number is greater than how many values there are. -/
structure EndsWithin (values listed : List String) : Prop where
  /-- From no stage that is come to, steps can be taken for ever. In particular every search
  for a number ends. -/
  ends : ∀ stage, Reached values stage → Acc (fun later earlier => Step values earlier later) stage
  /-- Where no further step can be taken, it is because all values have been listed. -/
  finished : ∀ stage, Reached values stage → (∀ later, ¬ Step values stage later) →
    ∃ progress, stage = .between progress [] ∧ progress.listed = listed
  /-- The numbers that are tried are bounded. -/
  tried : ∀ progress value number rest, Reached values (.trying progress value number rest) →
    2 ≤ number ∧ number ≤ values.length
  /-- So are the numbers of the values that are listed. -/
  given : ∀ (place : Nat) (value : String) (number : Nat), values[place]? = some value →
    listed[place]? = some (numbered value number) → 2 ≤ number ∧ number ≤ values.length

/-- Searching for numbers that tell repeated values apart ends within the number of values. -/
theorem distinct_endsWithin (values : List String) : EndsWithin values (distinct values) := by
  constructor
  case ends => exact fun stage reached => reached.sound.ends
  case finished => exact fun stage reached stuck => reached.sound.finished stuck
  case tried => exact fun progress value number rest reached => reached.sound.bounded
  case given =>
    intro place value number here listed
    obtain ⟨counted, _, rank⟩ := ranked_of_listed here listed
    have inside : place < values.length := (List.getElem?_eq_some_iff.mp here).1
    have more := count_take_lt here inside
    rw [List.take_length] at more
    have less : freeBefore values value number + 1 < values.count value := by omega
    exact ⟨counted, number_le_length less⟩

-- The bound is met where all numbers but the last are in use.
example : distinct ["a", "a", "a_2", "a_3"] = ["a", "a_4", "a_2", "a_3"] := by decide +kernel

end StableFleet.SchedulingUnit
