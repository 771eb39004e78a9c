import StableFleet.Table
import StableFleet.TextSet

/-!
# What is found in a table

Changing the values of a table or keeping some of its entries does so with what is found
under each key. A table made of entries has the last one with each key, so of several lists
of entries the last that has a key gives what is found under it; where keys are different,
the table has all of the entries.
-/

namespace StableFleet.Table

variable {α β : Type}

theorem get?_map (table : Table α) (change : String → α → β) (key : String) :
    (table.map change).get? key = (table.get? key).map (change key) := by
  obtain ⟨entries, ascending⟩ := table
  change valueIn key (entries.map _) = (valueIn key entries).map _
  clear ascending
  induction entries with
  | nil => rfl
  | cons entry entries inductionHypothesis =>
    rw [List.map_cons, valueIn, valueIn, inductionHypothesis]
    by_cases here : key = entry.1
    · rw [if_pos here, if_pos here, here]
      rfl
    · rw [if_neg here, if_neg here]

theorem get?_filter (table : Table α) (keep : String → α → Bool) (key : String) :
    (table.filter keep).get? key = (table.get? key).filter (keep key) := by
  apply Option.ext
  intro value
  have kept : (key, value) ∈ (table.filter keep).toList ↔
      (key, value) ∈ table.toList ∧ keep key value = true := List.mem_filter
  rw [Option.filter_eq_some_iff, ← mem_toList_iff, ← mem_toList_iff, kept]

/-- The keys of a table stand in strictly ascending order. -/
theorem keys_ascending (table : Table α) : table.keys.Pairwise fun left right => left < right :=
  List.pairwise_map.mpr table.ascending

/-- The keys of a table are different from each other. -/
theorem nodup_keys (table : Table α) : table.keys.Nodup :=
  TextSet.nodup_of_ascending table.keys_ascending

/-- A table of entries with different keys has these entries. -/
theorem get?_ofList_iff {entries : List (String × α)} (distinct : (entries.map (·.1)).Nodup)
    {key : String} {value : α} :
    (ofList entries).get? key = some value ↔ (key, value) ∈ entries := by
  have added (table : Table α) :
      (entries.foldl (fun table entry => table.insert entry.1 entry.2) table).get? key =
          some value ↔
        (key, value) ∈ entries ∨ (table.get? key = some value ∧ key ∉ entries.map (·.1)) := by
    induction entries generalizing table with
    | nil => simp
    | cons entry entries inductionHypothesis =>
      obtain ⟨absent, distinct⟩ := List.nodup_cons.mp distinct
      rw [List.foldl_cons, inductionHypothesis distinct, get?_insert]
      by_cases here : key = entry.1
      · subst here
        have missing : (entry.1, value) ∉ entries := fun present =>
          absent (List.mem_map.mpr ⟨_, present, rfl⟩)
        simp [missing, absent, Prod.ext_iff, eq_comm]
      · simp [here, Prod.ext_iff]
  simpa [ofList] using added empty

/-- Of two lists of entries, the second replaces what the first has under a key. -/
theorem get?_ofList_append (first second : List (String × α)) (key : String) :
    (ofList (first ++ second)).get? key =
      ((ofList second).get? key).or ((ofList first).get? key) := by
  have added (table : Table α) :
      (second.foldl (fun table entry => table.insert entry.1 entry.2) table).get? key =
        ((ofList second).get? key).or (table.get? key) := by
    induction second generalizing table with
    | nil => rfl
    | cons entry second inductionHypothesis =>
      rw [ofList, List.foldl_cons, List.foldl_cons, inductionHypothesis, inductionHypothesis,
        Option.or_assoc, get?_insert, get?_insert]
      by_cases here : key = entry.1 <;> simp [here]
  rw [ofList, List.foldl_append, added]
  rfl

/-- Of several lists of entries, the last that has a key gives what is under it. -/
theorem get?_ofList_flatMap {ι : Type} (items : List ι) (entries : ι → List (String × α))
    (key : String) :
    (ofList (items.flatMap entries)).get? key =
      items.reverse.findSome? fun item => (ofList (entries item)).get? key := by
  induction items with
  | nil => rfl
  | cons item items inductionHypothesis =>
    rw [List.flatMap_cons, get?_ofList_append, inductionHypothesis, List.reverse_cons,
      List.findSome?_append, List.findSome?_singleton]

/-- What is made of the entries of a table under one key is made of the value under that
key. -/
theorem flatMap_at {β : Type} (table : Table α) (asked : String) (make : α → List β) :
    (table.toList.flatMap fun entry => if entry.1 = asked then make entry.2 else []) =
      ((table.get? asked).map make).getD [] := by
  obtain ⟨entries, ascending⟩ := table
  change entries.flatMap _ = ((valueIn asked entries).map make).getD []
  induction entries with
  | nil => rfl
  | cons entry entries inductionHypothesis =>
    obtain ⟨first, ascending⟩ := List.pairwise_cons.mp ascending
    rw [List.flatMap_cons, inductionHypothesis ascending, valueIn]
    by_cases here : asked = entry.1
    · -- No later entry has this key.
      rw [if_pos here.symm, if_pos here, here, valueIn_eq_none_of_lt first]
      exact List.append_nil _
    · rw [if_neg (Ne.symm here), if_neg here, List.nil_append]

end StableFleet.Table
