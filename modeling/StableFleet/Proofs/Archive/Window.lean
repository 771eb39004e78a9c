import StableFleet.Archive.Bundle
import StableFleet.Proofs.Text.Decimal

/-!
# Where a bundle is looked for

The milestones at which a bundle is looked for are those near the one asked for. None is
negative or beyond a word of 32 bits, and each has its turn: first the one asked for, then
those after it upwards, and then those before it downwards. At each there are two variants, in
order.

A place is a milestone with a variant. The path of a place starts and ends like those of all
others, and what stands between tells the place. So no two places have the same path, and the
first place that has a bundle is told by the paths that have one.
-/

namespace StableFleet.BundleQuery

/-- A milestone is looked at: it is a word of 32 bits, and not too far from the one asked
for. -/
def Near (query : BundleQuery) (milestone : Nat) : Prop :=
  milestone < UInt32.size ∧ milestone ≤ query.milestone.toNat + ahead ∧
    query.milestone.toNat ≤ milestone + behind

/-- When a milestone has its turn: the one asked for at once, one after it so much later as it
is after it, and one before it later than these and so much later as it is before it. -/
def turn (query : BundleQuery) (milestone : Nat) : Nat :=
  if query.milestone.toNat ≤ milestone then milestone - query.milestone.toNat
  else ahead + (query.milestone.toNat - milestone)

section Milestones

variable (query : BundleQuery)

/-- The milestones that are looked at are those that are near. -/
theorem mem_milestones_iff {milestone : Nat} :
    milestone ∈ query.milestones ↔ query.Near milestone := by
  have fits : query.milestone.toNat < UInt32.size := query.milestone.toNat_lt_size
  simp only [milestones, Near, List.mem_cons, List.mem_append, List.mem_filter, List.mem_map,
    List.mem_range, decide_eq_true_eq, ahead, behind]
  constructor
  · rintro (rfl | ⟨⟨distance, near, rfl⟩, word⟩ | ⟨distance, near, rfl⟩) <;> omega
  · rintro ⟨word, after, before⟩
    rcases Nat.lt_trichotomy milestone query.milestone.toNat with less | same | greater
    · exact .inr (.inr ⟨query.milestone.toNat - milestone - 1, by omega, by omega⟩)
    · exact .inl same
    · exact .inr (.inl ⟨⟨milestone - query.milestone.toNat - 1, by omega, by omega⟩, word⟩)

/-- The milestones are looked at in their turns. -/
theorem milestones_ordered :
    query.milestones.Pairwise fun first second => query.turn first < query.turn second := by
  refine List.pairwise_cons.mpr ⟨fun milestone later => ?_, List.pairwise_append.mpr ⟨?_, ?_, ?_⟩⟩
  · simp only [List.mem_append, List.mem_filter, List.mem_map, List.mem_range] at later
    rcases later with ⟨⟨distance, near, rfl⟩, _⟩ | ⟨distance, near, rfl⟩ <;>
      simp only [turn] <;> split <;> split <;> omega
  · refine List.Pairwise.filter _ (List.pairwise_map.mpr (List.pairwise_lt_range.imp ?_))
    intro first second less
    simp only [turn]
    split <;> split <;> omega
  · refine List.pairwise_map.mpr (List.pairwise_lt_range.imp_of_mem ?_)
    intro first second within within' less
    rw [List.mem_range] at within within'
    simp only [turn]
    split <;> split <;> omega
  · intro first after second before
    simp only [List.mem_filter, List.mem_map, List.mem_range, ahead] at after before
    obtain ⟨⟨distance, near, rfl⟩, _⟩ := after
    obtain ⟨distance', near', rfl⟩ := before
    simp only [turn, ahead]
    split <;> split <;> omega

example : (⟨"nami", 4294967294, 1, 2, "fw"⟩ : BundleQuery).milestones.take 4 =
    [4294967294, 4294967295, 4294967293, 4294967292] := by
  decide +kernel

end Milestones

/-- A milestone with a variant. -/
abbrev Place := Nat × String

/-- The place of the variant that comes first, at the milestone asked for. -/
def start (query : BundleQuery) : Place := (query.milestone.toNat, "release")

/-- A place is looked at: its milestone is, and it is one of the two variants. -/
def Looks (query : BundleQuery) (place : Place) : Prop :=
  query.Near place.1 ∧ (place.2 = "release" ∨ place.2 = "firmware")

/-- One place comes before another: its milestone has its turn before, or it is the first
variant and the other the second at the same milestone. -/
def Precedes (query : BundleQuery) (place other : Place) : Prop :=
  query.turn place.1 < query.turn other.1 ∨
    place.1 = other.1 ∧ place.2 = "release" ∧ other.2 = "firmware"

/-- The path of a place. -/
def path (query : BundleQuery) (root : String) (place : Place) : String :=
  query.candidate root place.1 place.2

/-- The places that are looked at, one after another. -/
def places (query : BundleQuery) : List Place :=
  query.milestones.flatMap fun milestone => variants.map (milestone, ·)

section Places

variable (query : BundleQuery) (root : String)

theorem mem_places_iff {place : Place} : place ∈ query.places ↔ query.Looks place := by
  obtain ⟨milestone, variant⟩ := place
  simp only [places, variants, List.mem_flatMap, List.mem_map, mem_milestones_iff, Looks,
    List.mem_cons, List.not_mem_nil, or_false, Prod.mk.injEq]
  constructor
  · rintro ⟨_, near, _, known, rfl, rfl⟩
    exact ⟨near, known⟩
  · rintro ⟨near, known⟩
    exact ⟨milestone, near, variant, known, rfl, rfl⟩

/-- The places are looked at in order. -/
theorem places_ordered : query.places.Pairwise query.Precedes := by
  refine List.pairwise_flatMap.mpr ⟨fun milestone _ => ?_, query.milestones_ordered.imp ?_⟩
  · simp [variants, Precedes]
  · intro first second before place here other there
    obtain ⟨_, _, rfl⟩ := List.mem_map.mp here
    obtain ⟨_, _, rfl⟩ := List.mem_map.mp there
    exact .inl before

/-- The candidates are the paths of the places. -/
theorem flatten_candidates :
    (query.candidates root).flatten = query.places.map (query.path root) := by
  rw [candidates, ← List.flatMap_def, places, List.map_flatMap]
  rfl

/-- A place is told by its path: paths differ in the variant, or else in the digits of the
milestone. -/
theorem path_injective {place other : Place} (looks : query.Looks place)
    (looks' : query.Looks other) (same : query.path root place = query.path root other) :
    place = other := by
  obtain ⟨milestone, variant⟩ := place
  obtain ⟨milestone', variant'⟩ := other
  have chars := congrArg String.toList same
  have parts : variant = variant' ∧
      Text.Decimal.digits milestone = Text.Decimal.digits milestone' := by
    rcases looks.2 with rfl | rfl <;> rcases looks'.2 with rfl | rfl <;>
      simp [path, candidate] at chars ⊢ <;> exact chars
  obtain ⟨rfl, digits⟩ := parts
  rw [← Text.Decimal.value_digits milestone, digits, Text.Decimal.value_digits]

/-- No path is a candidate twice. -/
theorem nodup_candidates : (query.candidates root).flatten.Nodup := by
  rw [flatten_candidates]
  refine List.pairwise_map.mpr (query.places_ordered.imp_of_mem ?_)
  intro place other here there before same
  obtain rfl := path_injective query root ((mem_places_iff query).mp here)
    ((mem_places_iff query).mp there) same
  rcases before with earlier | ⟨_, first, second⟩
  · exact Nat.lt_irrefl _ earlier
  · exact absurd (first.symm.trans second) (by decide)

end Places

/-- What holds of the candidates of a search. -/
structure Orderly (query : BundleQuery) (root : String) : Prop where
  /-- They are the paths of places. -/
  paths : (query.candidates root).flatten = query.places.map (query.path root)
  /-- Every place that is looked at is among these, and no other. -/
  looked : ∀ place, place ∈ query.places ↔ query.Looks place
  /-- The places are in order. -/
  ordered : query.places.Pairwise query.Precedes
  /-- No path is a candidate twice. -/
  distinct : (query.candidates root).flatten.Nodup

theorem orderly (query : BundleQuery) (root : String) : query.Orderly root where
  paths := query.flatten_candidates root
  looked _ := query.mem_places_iff
  ordered := query.places_ordered
  distinct := query.nodup_candidates root

/-- What a search comes to by what the checks of paths find: the path of the first place that has
the bundle, or the failure that names the path of the first place of all. -/
inductive Finds (query : BundleQuery) (root : String) (checks : String → Except Error Bool) :
    Except Error String → Prop
  | first (place : Place) (looks : query.Looks place)
      (has : checks (query.path root place) = .ok true)
      (others : ∀ other, query.Looks other → checks (query.path root other) = .ok true →
        other = place ∨ query.Precedes place other) :
      Finds query root checks (.ok (query.path root place))
  | nowhere (none : ∀ place, query.Looks place → checks (query.path root place) ≠ .ok true) :
      Finds query root checks (.error (.notFound (query.path root query.start)))

/-- What a check finds. An archive that cannot tell counts as not having the object. -/
def found : Except Error Bool → Bool
  | .ok has => has
  | .error _ => false

theorem found_iff {reply : Except Error Bool} : found reply = true ↔ reply = .ok true := by
  cases reply <;> simp [found]

/-- What is found first in an ordered list comes before everything else that could be. -/
theorem first_of_find? {α : Type} {items : List α} {before : α → α → Prop} {has : α → Bool}
    {item : α} (ordered : items.Pairwise before) (first : items.find? has = some item) :
    ∀ other ∈ items, has other = true → other = item ∨ before item other := by
  obtain ⟨_, earlier, later, rfl, none⟩ := List.find?_eq_some_iff_append.mp first
  intro other present having
  rcases List.mem_append.mp present with sooner | rest
  · have lacking := none other sooner
    rw [having] at lacking
    cases lacking
  · rcases List.mem_cons.mp rest with same | after
    · exact .inl same
    · obtain ⟨_, ofItem, _⟩ := List.pairwise_append.mp ordered
      exact .inr ((List.pairwise_cons.mp ofItem).1 other after)

/-- What a search comes to: the path that it finds, or the failure that names the path of the
first place of all. -/
def conclude (query : BundleQuery) (root : String) : Option String → Except Error String
  | some path => .ok path
  | none => .error (.notFound (query.path root query.start))

/-- The first candidate that has the bundle is the path of the first place that has it. -/
theorem finds_first (query : BundleQuery) (root : String) (checks : String → Except Error Bool) :
    query.Finds root checks (query.conclude root
      ((query.candidates root).flatten.find? fun path => found (checks path))) := by
  rw [flatten_candidates, List.find?_map]
  cases first : query.places.find? ((fun path => found (checks path)) ∘ query.path root) with
  | some place =>
    have has := List.find?_some first
    refine .first place ((mem_places_iff query).mp (List.mem_of_find?_eq_some first))
      (found_iff.mp has) fun other looks having => ?_
    exact first_of_find? query.places_ordered first other ((mem_places_iff query).mpr looks)
      (found_iff.mpr having)
  | none =>
    refine .nowhere fun place looks having => ?_
    have lacking := List.find?_eq_none.mp first place ((mem_places_iff query).mpr looks)
    exact lacking (found_iff.mpr having)

/-- Two places do not come before each other. -/
theorem Precedes.asymm {query : BundleQuery} {place other : Place}
    (before : query.Precedes place other) : ¬ query.Precedes other place := by
  rintro (earlier | ⟨same, first, _⟩) <;> rcases before with later | ⟨same', _, second⟩
  · exact Nat.lt_asymm earlier later
  · rw [same'] at earlier
    exact Nat.lt_irrefl _ earlier
  · rw [same] at later
    exact Nat.lt_irrefl _ later
  · exact absurd (first.symm.trans second) (by decide)

/-- What the checks find leaves a search one answer. -/
theorem Finds.unique {query : BundleQuery} {root : String} {checks : String → Except Error Bool}
    {answer other : Except Error String} (finds : query.Finds root checks answer)
    (finds' : query.Finds root checks other) : answer = other := by
  cases finds with
  | first place looks has others =>
    cases finds' with
    | first place' looks' has' others' =>
      rcases others place' looks' has' with rfl | before
      · rfl
      · rcases others' place looks has with rfl | after
        · rfl
        · exact absurd after before.asymm
    | nowhere none => exact absurd has (none place looks)
  | nowhere none =>
    cases finds' with
    | first place looks has others => exact absurd has (none place looks)
    | nowhere _ => rfl

end StableFleet.BundleQuery
