/-!
# Tables in key order

A table maps texts to values. Its entries stand in strictly ascending order of
their keys, so each key occurs once and two tables with the same values under
the same keys are the same table.
-/

namespace StableFleet

universe u v

/-- Finitely many values under distinct keys, kept in key order. -/
structure Table (α : Type u) where
  entries : List (String × α)
  ascending : entries.Pairwise fun left right => left.1 < right.1

namespace Table

variable {α : Type u} {β : Type v}

instance [DecidableEq α] : DecidableEq (Table α) := fun left right =>
  if same : left.entries = right.entries then
    .isTrue (by cases left; cases right; cases same; rfl)
  else .isFalse fun equal => same (congrArg entries equal)

/-- Of two texts that are not in order, the second is no greater. -/
theorem le_of_not_lt {left right : String} (unordered : ¬ left < right) : right ≤ left :=
  String.not_lt.mp unordered

/-- Of two different texts that are not in order, the second comes first. -/
theorem lt_of_not_lt_of_ne {left right : String} (unordered : ¬ left < right)
    (different : left ≠ right) : right < left := by
  rcases String.le_total left right with below | below
  · exact absurd (String.le_antisymm below (String.not_lt.mp unordered)) different
  · apply Decidable.byContradiction
    intro other
    exact different (String.le_antisymm (String.not_lt.mp other) below)

/-- The value under a key in a list of entries. -/
def valueIn (key : String) : List (String × α) → Option α
  | [] => none
  | (other, value) :: rest => if key = other then some value else valueIn key rest

/-- A list of entries in key order with a value put under a key. -/
def insertIn (key : String) (value : α) : List (String × α) → List (String × α)
  | [] => [(key, value)]
  | (other, old) :: rest =>
    if key < other then (key, value) :: (other, old) :: rest
    else if key = other then (key, value) :: rest
    else (other, old) :: insertIn key value rest

/-- Putting a value under a key adds no other entry. -/
theorem mem_insertIn {key : String} {value : α} {entries : List (String × α)}
    {entry : String × α} (present : entry ∈ insertIn key value entries) :
    entry = (key, value) ∨ entry ∈ entries := by
  induction entries with
  | nil => simpa [insertIn] using present
  | cons head rest inductionHypothesis =>
    simp only [insertIn] at present
    split at present
    · simpa using present
    · split at present
      · rcases List.mem_cons.mp present with same | later
        · exact .inl same
        · exact .inr (List.mem_cons_of_mem _ later)
      · rcases List.mem_cons.mp present with same | later
        · exact .inr (same ▸ List.mem_cons_self)
        · rcases inductionHypothesis later with added | kept
          · exact .inl added
          · exact .inr (List.mem_cons_of_mem _ kept)

/-- Putting a value under a key keeps the order. -/
theorem insertIn_ascending {key : String} {value : α} {entries : List (String × α)}
    (ascending : entries.Pairwise fun left right => left.1 < right.1) :
    (insertIn key value entries).Pairwise fun left right => left.1 < right.1 := by
  induction entries with
  | nil => simp [insertIn]
  | cons head rest inductionHypothesis =>
    have parts := List.pairwise_cons.mp ascending
    simp only [insertIn]
    split
    · next before =>
      refine List.pairwise_cons.mpr ⟨?_, ascending⟩
      intro entry present
      rcases List.mem_cons.mp present with same | later
      · exact same ▸ before
      · exact String.lt_trans before (parts.1 entry later)
    · next unordered =>
      split
      · next same => exact List.pairwise_cons.mpr ⟨same ▸ parts.1, parts.2⟩
      · next different =>
        refine List.pairwise_cons.mpr ⟨?_, inductionHypothesis parts.2⟩
        intro entry present
        rcases mem_insertIn present with added | kept
        · exact added ▸ lt_of_not_lt_of_ne unordered different
        · exact parts.1 entry kept

/-- The table without entries. -/
def empty : Table α := ⟨[], List.Pairwise.nil⟩

instance : EmptyCollection (Table α) := ⟨empty⟩
instance : Inhabited (Table α) := ⟨empty⟩

/-- The value under a key. -/
def get? (table : Table α) (key : String) : Option α := valueIn key table.entries

/-- The table with a value put under a key, in place of any it had there. -/
def insert (table : Table α) (key : String) (value : α) : Table α :=
  ⟨insertIn key value table.entries, insertIn_ascending table.ascending⟩

/-- Whether a key has a value. -/
def contains (table : Table α) (key : String) : Bool := (table.get? key).isSome

/-- The keys in order. -/
def keys (table : Table α) : List String := table.entries.map (·.1)

/-- The values in key order. -/
def values (table : Table α) : List α := table.entries.map (·.2)

/-- The entries in key order. -/
def toList (table : Table α) : List (String × α) := table.entries

/-- The number of keys. -/
def size (table : Table α) : Nat := table.entries.length

/-- Whether there is no key. -/
def isEmpty (table : Table α) : Bool := table.entries.isEmpty

/-- The table with what is under a key replaced by a function of it. -/
def update (table : Table α) (key : String) (change : Option α → α) : Table α :=
  table.insert key (change (table.get? key))

/-- The table of some entries; a later one replaces an earlier one with its key. -/
def ofList (entries : List (String × α)) : Table α :=
  entries.foldl (fun table entry => table.insert entry.1 entry.2) empty

/-- The entries that satisfy a condition. -/
def filter (table : Table α) (keep : String → α → Bool) : Table α :=
  ⟨table.entries.filter fun entry => keep entry.1 entry.2, table.ascending.filter _⟩

/-- The table with every value replaced by a function of it and its key. -/
def map (table : Table α) (change : String → α → β) : Table β :=
  ⟨table.entries.map fun entry => (entry.1, change entry.1 entry.2),
    List.pairwise_map.mpr table.ascending⟩

/-- What a list of entries holds under a key once a value is put under one. -/
theorem valueIn_insertIn (key other : String) (value : α) (entries : List (String × α)) :
    valueIn other (insertIn key value entries) =
      if other = key then some value else valueIn other entries := by
  induction entries with
  | nil => simp [insertIn, valueIn]
  | cons head rest inductionHypothesis =>
    simp only [insertIn]
    split
    · simp [valueIn]
    · split
      · next same =>
        by_cases asked : other = key
        · simp [valueIn, asked]
        · simp [valueIn, asked, same ▸ asked]
      · next different =>
        by_cases here : other = head.1
        · have distinct : ¬ other = key := fun same => different (same ▸ here)
          simp [valueIn, here, here ▸ distinct]
        · simp [valueIn, here, inductionHypothesis]

/-- Putting a value under a key changes what is under that key alone. -/
@[simp] theorem get?_insert (table : Table α) (key other : String) (value : α) :
    (table.insert key value).get? other = if other = key then some value else table.get? other :=
  valueIn_insertIn key other value table.entries

@[simp] theorem get?_empty (key : String) : (empty : Table α).get? key = none := rfl

/-- What updates at the keys of some items leave under a key comes of the items with
that key alone. -/
theorem get?_foldl_update {ι : Type} (key : ι → String) (change : ι → Option α → α)
    (items : List ι) (table : Table α) (asked : String) :
    (items.foldl (fun table item => table.update (key item) (change item)) table).get? asked =
      (items.filter fun item => key item = asked).foldl
        (fun known item => some (change item known)) (table.get? asked) := by
  induction items generalizing table with
  | nil => rfl
  | cons item items inductionHypothesis =>
    rw [List.foldl_cons, inductionHypothesis, update, get?_insert]
    by_cases here : key item = asked
    · simp [here]
    · simp [here, Ne.symm here]

/-- In entries whose keys are all greater than a key, that key has no value. -/
theorem valueIn_eq_none_of_lt {key : String} {entries : List (String × α)}
    (greater : ∀ entry ∈ entries, key < entry.1) : valueIn key entries = none := by
  induction entries with
  | nil => rfl
  | cons head rest inductionHypothesis =>
    have first : ¬ key = head.1 := fun same =>
      String.lt_irrefl key (same ▸ greater head List.mem_cons_self)
    simp only [valueIn, if_neg first]
    exact inductionHypothesis fun entry present => greater entry (List.mem_cons_of_mem _ present)

/-- An entry of a list in key order is found under its key. -/
theorem valueIn_of_mem {entries : List (String × α)} {entry : String × α}
    (ascending : entries.Pairwise fun left right => left.1 < right.1) (present : entry ∈ entries) :
    valueIn entry.1 entries = some entry.2 := by
  induction entries with
  | nil => cases present
  | cons head rest inductionHypothesis =>
    have parts := List.pairwise_cons.mp ascending
    rcases List.mem_cons.mp present with same | later
    · simp [valueIn, same]
    · have first : ¬ entry.1 = head.1 := fun same =>
        String.lt_irrefl entry.1 (same ▸ parts.1 entry later)
      simp only [valueIn, if_neg first]
      exact inductionHypothesis parts.2 later

/-- What is found under a key is an entry. -/
theorem mem_of_valueIn {key : String} {value : α} {entries : List (String × α)}
    (found : valueIn key entries = some value) : (key, value) ∈ entries := by
  induction entries with
  | nil => cases found
  | cons head rest inductionHypothesis =>
    simp only [valueIn] at found
    split at found
    · next same =>
      cases found
      exact same ▸ List.mem_cons_self
    · exact List.mem_cons_of_mem _ (inductionHypothesis found)

/-- The entries of a table are its values under their keys. -/
theorem mem_toList_iff {table : Table α} {key : String} {value : α} :
    (key, value) ∈ table.toList ↔ table.get? key = some value :=
  ⟨fun present => valueIn_of_mem table.ascending present, mem_of_valueIn⟩

/-- The keys of a table are those under which it has a value. -/
theorem mem_keys_iff {table : Table α} {key : String} :
    key ∈ table.keys ↔ table.contains key = true := by
  unfold contains
  constructor
  · intro present
    obtain ⟨⟨_, value⟩, member, rfl⟩ := List.mem_map.mp present
    rw [mem_toList_iff.mp member]
    rfl
  · intro held
    obtain ⟨value, found⟩ := Option.isSome_iff_exists.mp held
    exact List.mem_map.mpr ⟨(key, value), mem_toList_iff.mpr found, rfl⟩

/-- Two lists in key order with the same values under every key are equal. -/
theorem entries_eq_of_valueIn {left right : List (String × α)}
    (leftAscending : left.Pairwise fun first second => first.1 < second.1)
    (rightAscending : right.Pairwise fun first second => first.1 < second.1)
    (same : ∀ key, valueIn key left = valueIn key right) : left = right := by
  induction left generalizing right with
  | nil =>
    cases right with
    | nil => rfl
    | cons head rest =>
      have found := same head.1
      simp [valueIn] at found
  | cons head rest inductionHypothesis =>
    cases right with
    | nil =>
      have found := same head.1
      simp [valueIn] at found
    | cons other others =>
      have leftParts := List.pairwise_cons.mp leftAscending
      have rightParts := List.pairwise_cons.mp rightAscending
      have keys : head.1 = other.1 := by
        apply Decidable.byContradiction
        intro different
        by_cases before : head.1 < other.1
        · have absent : valueIn head.1 (other :: others) = none := by
            apply valueIn_eq_none_of_lt
            intro entry present
            rcases List.mem_cons.mp present with equal | later
            · exact equal ▸ before
            · exact String.lt_trans before (rightParts.1 entry later)
          have found := same head.1
          rw [absent] at found
          simp [valueIn] at found
        · have after := lt_of_not_lt_of_ne before different
          have absent : valueIn other.1 (head :: rest) = none := by
            apply valueIn_eq_none_of_lt
            intro entry present
            rcases List.mem_cons.mp present with equal | later
            · exact equal ▸ after
            · exact String.lt_trans after (leftParts.1 entry later)
          have found := same other.1
          rw [absent] at found
          simp [valueIn] at found
      have values : head.2 = other.2 := by
        have found := same head.1
        rw [keys] at found
        simpa [valueIn, keys] using found
      have heads : head = other := Prod.ext keys values
      subst heads
      congr 1
      apply inductionHypothesis leftParts.2 rightParts.2
      intro key
      by_cases first : key = head.1
      · rw [valueIn_eq_none_of_lt (first ▸ leftParts.1), valueIn_eq_none_of_lt (first ▸ rightParts.1)]
      · have found := same key
        simpa [valueIn, first] using found

/-- A table is determined by what it holds under each key. -/
theorem ext {left right : Table α} (same : ∀ key, left.get? key = right.get? key) :
    left = right := by
  cases left with
  | mk leftEntries leftAscending =>
    cases right with
    | mk rightEntries rightAscending =>
      congr 1
      exact entries_eq_of_valueIn leftAscending rightAscending same

end Table

end StableFleet
