import StableFleet.Dimensions.SchedulingUnit
import StableFleet.Proofs.Dimensions.Form

/-!
# Telling repeated values apart

Values are listed one after another: a value that is not taken as it is, and a repetition as
the first of its numbered values that is neither taken nor one of the values. A number
stands behind the last mark, so the numbered values of different values are never the same,
and what a value is numbered with depends on that value alone. After some values, the texts
that are taken are therefore these values and, of each, as many of its free numbers from the
least on as it has been repeated.

So which texts are listed is told by how often each value occurs. Only in what order they
are listed depends on the order of the values.
-/

namespace StableFleet.SchedulingUnit

open Projection (numeral)

/-- A number stands behind the last mark, so numbered values are told apart. -/
theorem numbered_injective {value other : String} {number number' : Nat}
    (same : numbered value number = numbered other number') : value = other ∧ number = number' := by
  have reversed (value : String) (number : Nat) : (numbered value number).toList.reverse =
      (Text.Decimal.digits number).reverse ++ '_' :: value.toList.reverse := by
    simp [numbered, numeral]
  have unmarked (number : Nat) : '_' ∉ (Text.Decimal.digits number).reverse := fun present =>
    Text.Decimal.not_mem_digits number rfl (List.mem_reverse.mp present)
  have cut := Text.cutAt?_eq_some_iff.mpr ⟨reversed value number, unmarked number⟩
  have cut' := Text.cutAt?_eq_some_iff.mpr ⟨reversed other number', unmarked number'⟩
  rw [same, cut'] at cut
  obtain ⟨digits, values⟩ := Prod.mk.inj (Option.some.inj cut)
  have numerals : numeral number' = numeral number :=
    congrArg String.ofList (List.reverse_inj.mp digits)
  exact ⟨String.ext (List.reverse_inj.mp values.symm), (Projection.numeral_injective numerals).symm⟩

section Free

/-- Trying numbers in turn gives the first that is free, or the last that may be tried. -/
theorem freeValue_cases (used : List String) (value : String) (bound start : Nat) :
    ∃ number, start ≤ number ∧ freeValue used value bound start = numbered value number ∧
      (∀ earlier, start ≤ earlier → earlier < number → numbered value earlier ∈ used) ∧
      (numbered value number ∉ used ∨ number = start + bound) := by
  induction bound generalizing start with
  | zero =>
    exact ⟨start, Nat.le_refl _, rfl, fun earlier after before => absurd before (by omega),
      .inr rfl⟩
  | succ bound inductionHypothesis =>
    rw [freeValue]
    by_cases taken : numbered value start ∈ used
    · rw [if_pos taken]
      obtain ⟨number, after, found, tried, free⟩ := inductionHypothesis (start + 1)
      refine ⟨number, by omega, found, fun earlier later before => ?_, ?_⟩
      · by_cases first : earlier = start
        · exact first ▸ taken
        · exact tried earlier (by omega) before
      · exact free.imp_right fun last => by omega
    · rw [if_neg taken]
      exact ⟨start, Nat.le_refl _, rfl, fun earlier after before => absurd before (by omega),
        .inl taken⟩

/-- Of more numbers than there are texts, one gives a value that is not among them. -/
theorem exists_unused (used : List String) (value : String) :
    ∃ number, 2 ≤ number ∧ number ≤ used.length + 2 ∧ numbered value number ∉ used := by
  apply Classical.byContradiction
  intro none
  have distinct : ((List.range' 2 (used.length + 1)).map (numbered value)).Nodup := by
    refine List.pairwise_map.mpr ((List.nodup_range' 1).imp ?_)
    intro left right different same
    exact different (numbered_injective same).2
  have within : (List.range' 2 (used.length + 1)).map (numbered value) ⊆ used := by
    intro candidate present
    obtain ⟨number, inside, rfl⟩ := List.mem_map.mp present
    obtain ⟨lower, upper⟩ := List.mem_range'_1.mp inside
    apply Decidable.byContradiction
    intro unused
    exact none ⟨number, lower, by omega, unused⟩
  have length := distinct.length_le_of_subset within
  rw [List.length_map, List.length_range'] at length
  omega

/-- The value that is taken for a repetition has the first number from two on that is free. -/
theorem freeValue_spec (used : List String) (value : String) :
    ∃ number, 2 ≤ number ∧ freeValue used value used.length 2 = numbered value number ∧
      numbered value number ∉ used ∧
      ∀ earlier, 2 ≤ earlier → earlier < number → numbered value earlier ∈ used := by
  obtain ⟨number, after, found, tried, free | last⟩ := freeValue_cases used value used.length 2
  · exact ⟨number, after, found, free, tried⟩
  · -- All numbers before the last have been tried, so it is the one that is free.
    obtain ⟨place, counted, bounded, free⟩ := exists_unused used value
    have final : place = number := by
      rcases Nat.lt_or_ge place number with earlier | later
      · exact absurd (tried place counted earlier) free
      · omega
    exact ⟨number, after, found, final ▸ free, tried⟩

end Free

/-- How many numbers from two on, before a given one, give a value that is not among some
texts. -/
def freeBefore (texts : List String) (value : String) (number : Nat) : Nat :=
  (List.range number).countP fun earlier => 2 ≤ earlier ∧ numbered value earlier ∉ texts

section Rank

variable {texts : List String} {value : String} {number : Nat}

/-- A free number is counted before those that follow it. -/
theorem freeBefore_succ (texts : List String) (value : String) (number : Nat) :
    freeBefore texts value (number + 1) = freeBefore texts value number +
      if 2 ≤ number ∧ numbered value number ∉ texts then 1 else 0 := by
  simp [freeBefore, List.range_succ, List.countP_singleton]

theorem freeBefore_mono {later : Nat} (before : number ≤ later) :
    freeBefore texts value number ≤ freeBefore texts value later := by
  induction before with
  | refl => exact Nat.le_refl _
  | step _ inductionHypothesis =>
    rw [freeBefore_succ]
    omega

/-- More free numbers come before those that follow a free one. -/
theorem freeBefore_lt {later : Nat} (counted : 2 ≤ number) (free : numbered value number ∉ texts)
    (before : number < later) :
    freeBefore texts value number < freeBefore texts value later := by
  have next := freeBefore_succ texts value number
  rw [if_pos ⟨counted, free⟩] at next
  have rest : freeBefore texts value (number + 1) ≤ freeBefore texts value later :=
    freeBefore_mono before
  omega

/-- Free numbers are told apart by how many come before them. -/
theorem eq_of_freeBefore_eq {other : Nat} (counted : 2 ≤ number)
    (free : numbered value number ∉ texts) (counted' : 2 ≤ other)
    (free' : numbered value other ∉ texts)
    (same : freeBefore texts value number = freeBefore texts value other) : number = other := by
  rcases Nat.lt_trichotomy number other with before | equal | after
  · exact absurd same (Nat.ne_of_lt (freeBefore_lt counted free before))
  · exact equal
  · exact absurd same (Nat.ne_of_gt (freeBefore_lt counted' free' after))

/-- It does not matter in which order the texts are. -/
theorem freeBefore_of_perm {others : List String} (permuted : texts.Perm others) (value : String)
    (number : Nat) : freeBefore texts value number = freeBefore others value number := by
  simp only [freeBefore, permuted.mem_iff]

end Rank

/-- What some values, seen in turn, are listed as, clear of all texts: the values
themselves and, for each repetition of a value, the next of its free numbers. -/
def Listed (texts seen : List String) (text : String) : Prop :=
  text ∈ seen ∨ ∃ value number, text = numbered value number ∧ 2 ≤ number ∧
    numbered value number ∉ texts ∧ freeBefore texts value number + 1 < seen.count value

section Steps

variable {texts seen : List String} {value : String}

/-- A value that has not been seen is listed as it is. -/
theorem listed_new (fresh : value ∉ seen) (text : String) :
    Listed texts (seen ++ [value]) text ↔ text = value ∨ Listed texts seen text := by
  have counts (other : String) (rank : Nat) :
      rank + 1 < (seen ++ [value]).count other ↔ rank + 1 < seen.count other := by
    by_cases same : value = other
    · subst same
      simp [List.count_append, List.count_eq_zero_of_not_mem fresh]
    · simp [List.count_append, same]
  simp only [Listed, counts, List.mem_append, List.mem_singleton]
  rw [or_comm (a := text ∈ seen), or_assoc]

/-- A value that has been seen is listed with the free number before which there are as
many as it has repetitions. -/
theorem listed_again {number : Nat} (again : value ∈ seen) (counted : 2 ≤ number)
    (free : numbered value number ∉ texts)
    (rank : freeBefore texts value number + 1 = seen.count value) (text : String) :
    Listed texts (seen ++ [value]) text ↔
      text = numbered value number ∨ Listed texts seen text := by
  have known : text ∈ seen ++ [value] ↔ text ∈ seen := by
    rw [List.mem_append, List.mem_singleton]
    exact or_iff_left_of_imp fun same => same ▸ again
  constructor
  · rintro (present | ⟨other, place, rfl, counted', free', before⟩)
    · exact .inr (.inl (known.mp present))
    · by_cases same : value = other
      · -- One more of its free numbers is listed, which is the given one.
        subst same
        rw [List.count_append, List.count_singleton_self] at before
        by_cases earlier : freeBefore texts value place + 1 < seen.count value
        · exact .inr (.inr ⟨value, place, rfl, counted', free', earlier⟩)
        · have places := eq_of_freeBefore_eq counted' free' counted free (by omega)
          exact .inl (by rw [places])
      · rw [List.count_append, List.count_singleton, if_neg (by simpa using same)] at before
        exact .inr (.inr ⟨other, place, rfl, counted', free', before⟩)
  · rintro (rfl | present | ⟨other, place, rfl, counted', free', before⟩)
    · refine .inr ⟨value, number, rfl, counted, free, ?_⟩
      rw [List.count_append, List.count_singleton_self]
      omega
    · exact .inl (known.mpr present)
    · refine .inr ⟨other, place, rfl, counted', free', ?_⟩
      rw [List.count_append]
      omega

/-- The taken texts are what the values that have been seen are listed as. -/
def Takes (texts seen taken : List String) : Prop := ∀ text, text ∈ taken ↔ Listed texts seen text

/-- If all numbers before one give values that are taken or among the texts, fewer of them
are free than a value has been seen: the free ones are taken for its repetitions. -/
theorem freeBefore_lt_count {taken : List String} {number : Nat} (takes : Takes texts seen taken)
    (within : seen ⊆ texts) (again : value ∈ seen)
    (tried : ∀ earlier, 2 ≤ earlier → earlier < number → numbered value earlier ∈ texts ++ taken) :
    freeBefore texts value number < seen.count value := by
  induction number with
  | zero => exact List.count_pos_iff.mpr again
  | succ number inductionHypothesis =>
    have before := inductionHypothesis fun earlier counted less =>
      tried earlier counted (Nat.lt_succ_of_lt less)
    rw [freeBefore_succ]
    split
    · next free =>
      obtain ⟨counted, absent⟩ := free
      have used := List.mem_append.mp (tried number counted (Nat.lt_succ_self _))
      have present := used.resolve_left absent
      rcases (takes _).mp present with literal | ⟨other, place, same, _, _, listed⟩
      · exact absurd (within literal) absent
      · -- Only repetitions of the value itself can have taken it.
        obtain ⟨rfl, rfl⟩ := numbered_injective same
        exact listed
    · exact before

/-- What may be listed for a value, when some texts are taken: the value if it is not, or
else the first of its numbered values that is neither taken nor among the texts. -/
inductive Next (texts taken : List String) (value : String) : String → Prop
  | literal (free : value ∉ taken) : Next texts taken value value
  | repetition (number : Nat) (repeated : value ∈ taken) (counted : 2 ≤ number)
      (absent : numbered value number ∉ texts) (free : numbered value number ∉ taken)
      (tried : ∀ earlier, 2 ≤ earlier → earlier < number →
        numbered value earlier ∈ texts ++ taken) :
      Next texts taken value (numbered value number)

/-- One value after another is listed, and what is listed for it is taken. -/
theorem distinctFrom_cons (texts taken : List String) (value : String) (rest : List String) :
    ∃ next, Next texts taken value next ∧ distinctFrom texts taken (value :: rest) =
      next :: distinctFrom texts (next :: taken) rest := by
  rw [distinctFrom]
  by_cases repeated : value ∈ taken
  · obtain ⟨number, counted, found, free, tried⟩ := freeValue_spec (texts ++ taken) value
    obtain ⟨absent, free⟩ := not_or.mp (mt List.mem_append.mpr free)
    simp only [if_pos repeated, found]
    exact ⟨_, .repetition number repeated counted absent free tried, rfl⟩
  · rw [if_neg repeated]
    exact ⟨value, .literal repeated, rfl⟩

/-- What is listed next is not taken. -/
theorem Next.free {taken : List String} {next : String} (chosen : Next texts taken value next) :
    next ∉ taken := by
  cases chosen <;> assumption

/-- Only one text may be listed next: of two numbers that are free, both being the first, none
is less. -/
theorem Next.unique {taken : List String} {next other : String}
    (chosen : Next texts taken value next) (chosen' : Next texts taken value other) :
    next = other := by
  cases chosen with
  | literal free =>
    cases chosen' with
    | literal _ => rfl
    | repetition _ repeated => exact absurd repeated free
  | repetition number repeated counted absent free tried =>
    cases chosen' with
    | literal free => exact absurd repeated free
    | repetition number' _ counted' absent' free' tried' =>
      have unused : numbered value number ∉ texts ++ taken :=
        mt List.mem_append.mp (not_or.mpr ⟨absent, free⟩)
      have unused' : numbered value number' ∉ texts ++ taken :=
        mt List.mem_append.mp (not_or.mpr ⟨absent', free'⟩)
      have notLess : ¬ number < number' := fun less => unused (tried' number counted less)
      have notLess' : ¬ number' < number := fun less => unused' (tried number' counted' less)
      rw [Nat.le_antisymm (Nat.le_of_not_lt notLess') (Nat.le_of_not_lt notLess)]

/-- What may be listed next is what is listed, and then it is taken. -/
theorem distinctFrom_of_next {taken : List String} {next : String}
    (chosen : Next texts taken value next) (rest : List String) :
    distinctFrom texts taken (value :: rest) = next :: distinctFrom texts (next :: taken) rest := by
  obtain ⟨other, chosen', listed⟩ := distinctFrom_cons texts taken value rest
  rw [listed, chosen.unique chosen']

/-- What stands in the list for a value, after those that have been seen: the value itself if
it is new, and else the value with the free number before which there are as many as it has
repetitions. -/
inductive Stands (texts seen : List String) (value : String) : String → Prop
  | literal (fresh : value ∉ seen) : Stands texts seen value value
  | repetition (number : Nat) (again : value ∈ seen) (counted : 2 ≤ number)
      (free : numbered value number ∉ texts)
      (rank : freeBefore texts value number + 1 = seen.count value) :
      Stands texts seen value (numbered value number)

/-- A value of the texts that is taken has been seen: it is no numbered value that makes it
none of the texts. -/
theorem Takes.mem_seen {taken : List String} (takes : Takes texts seen taken) (literal : value ∈ texts)
    (repeated : value ∈ taken) : value ∈ seen := by
  rcases (takes value).mp repeated with present | ⟨_, _, rfl, _, absent, _⟩
  · exact present
  · exact absurd literal absent

/-- What is listed next stands for a further value. -/
theorem Takes.stands {taken : List String} {next : String} (takes : Takes texts seen taken)
    (within : seen ⊆ texts) (literal : value ∈ texts) (chosen : Next texts taken value next) :
    Stands texts seen value next := by
  cases chosen with
  | literal free => exact .literal fun present => free ((takes value).mpr (.inl present))
  | repetition number repeated counted absent free tried =>
    have again : value ∈ seen := takes.mem_seen literal repeated
    -- So many free numbers come before as have been taken, and no more, as this one is not.
    have less := freeBefore_lt_count takes within again tried
    have enough : ¬ freeBefore texts value number + 1 < seen.count value := fun listed =>
      free ((takes _).mpr (.inr ⟨value, number, rfl, counted, absent, listed⟩))
    exact .repetition number again counted absent (by omega)

/-- With what stands for a further value, so many texts are taken as the values that have been
seen are then listed as. -/
theorem Takes.next {taken : List String} {next : String} (takes : Takes texts seen taken)
    (stands : Stands texts seen value next) : Takes texts (seen ++ [value]) (next :: taken) := by
  intro text
  rw [List.mem_cons, takes text]
  cases stands with
  | literal fresh => exact (listed_new fresh text).symm
  | repetition number again counted free rank =>
    exact (listed_again again counted free rank text).symm

end Steps

section Runs

variable {texts seen taken rest : List String}

/-- Going through values takes what they are listed as. -/
theorem mem_distinctFrom (takes : Takes texts seen taken) (within : seen ++ rest ⊆ texts)
    (text : String) :
    text ∈ distinctFrom texts taken rest ∨ text ∈ taken ↔ Listed texts (seen ++ rest) text := by
  induction rest generalizing seen taken with
  | nil => simp [distinctFrom, takes text]
  | cons value rest inductionHypothesis =>
    obtain ⟨next, chosen, listed⟩ := distinctFrom_cons texts taken value rest
    have before : seen ⊆ texts := fun _ present => within (List.mem_append_left _ present)
    have literal : value ∈ texts := within (List.mem_append_right _ List.mem_cons_self)
    have stands := takes.stands before literal chosen
    rw [List.append_cons] at within ⊢
    rw [← inductionHypothesis (takes.next stands) within, listed, List.mem_cons, List.mem_cons,
      or_assoc, or_left_comm]

/-- Nothing is listed twice, or that is taken. -/
theorem nodup_distinctFrom (texts taken rest : List String) :
    (distinctFrom texts taken rest).Nodup ∧
      ∀ text ∈ distinctFrom texts taken rest, text ∉ taken := by
  induction rest generalizing taken with
  | nil => simp [distinctFrom]
  | cons value rest inductionHypothesis =>
    obtain ⟨next, chosen, listed⟩ := distinctFrom_cons texts taken value rest
    obtain ⟨nodup, apart⟩ := inductionHypothesis (next :: taken)
    rw [listed]
    refine ⟨List.nodup_cons.mpr ⟨fun present => ?_, nodup⟩, fun text present => ?_⟩
    · exact apart next present List.mem_cons_self
    · rcases List.mem_cons.mp present with rfl | later
      · exact chosen.free
      · exact fun known => apart text later (List.mem_cons_of_mem _ known)

theorem nodup_distinct (values : List String) : (distinct values).Nodup :=
  (nodup_distinctFrom values [] values).1

/-- Before any value has been seen, nothing is taken. -/
theorem takes_nothing (texts : List String) : Takes texts [] [] := by
  intro text
  simp [Listed]

/-- The distinct values are what the values are listed as. -/
theorem mem_distinct {values : List String} {text : String} :
    text ∈ distinct values ↔ Listed values values text :=
  (or_iff_left List.not_mem_nil).symm.trans
    (mem_distinctFrom (takes_nothing values) (List.Subset.refl values) text)

/-- In another order, the same distinct values are listed. -/
theorem distinct_perm {values others : List String} (permuted : values.Perm others) :
    (distinct values).Perm (distinct others) := by
  refine (List.perm_ext_iff_of_nodup (nodup_distinct _) (nodup_distinct _)).mpr fun text => ?_
  rw [mem_distinct, mem_distinct]
  simp only [Listed, permuted.mem_iff, permuted.count_eq, freeBefore_of_perm permuted]

end Runs

end StableFleet.SchedulingUnit
