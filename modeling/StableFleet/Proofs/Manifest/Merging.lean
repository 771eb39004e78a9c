import StableFleet.Manifest.Merge
import StableFleet.Proofs.Manifest.Versions

/-!
# What a merge leaves

A merge keeps the old entries in their places and adds one entry for each new key, in the
order in which the new keys first appear. The version of a key is the last one that was
merged for it, or else the old one. An old entry with the key of an earlier one is never
found, so it is never touched.

These three facts determine the merged entries: the version of an entry that is the first
with its key is the version of the key, and every other entry is an old one. So merging the
same entries again changes nothing.
-/

namespace StableFleet.Manifest

variable {old updated merged entries : List VersionEntry}

/-- The keys of some entries that are not among known keys, each once and in the order in
which they first appear. -/
def newKeys (known : List EntryKey) (updated : List VersionEntry) : List EntryKey :=
  ((updated.map (·.key)).filter (· ∉ known)).eraseDups

/-- The entries that are left by a merge. -/
structure Merged (old updated merged : List VersionEntry) : Prop where
  keys : merged.map (·.key) = old.map (·.key) ++ newKeys (old.map (·.key)) updated
  versions : ∀ key, versionFor? merged key = (latestFor? updated key).or (versionFor? old key)
  repeated : ∀ index entry, old[index]? = some entry →
    entry.key ∈ (old.map (·.key)).take index → merged[index]? = some entry

section OneEntry

/-- Merging an entry adds its key at the end, if it is new. -/
theorem keys_mergeEntry (entry : VersionEntry) (entries : List VersionEntry) :
    (mergeEntry entry entries).map (·.key) =
      if entry.key ∈ entries.map (·.key) then entries.map (·.key)
      else entries.map (·.key) ++ [entry.key] := by
  induction entries with
  | nil => rfl
  | cons first rest inductionHypothesis =>
    by_cases here : first.key = entry.key
    · simp [mergeEntry, here]
    · have other : ¬ entry.key = first.key := fun same => here same.symm
      rw [mergeEntry, if_neg here, List.map_cons, inductionHypothesis, List.map_cons]
      by_cases later : entry.key ∈ rest.map (·.key) <;> simp [later, other]

/-- Merging an entry leaves entries with other keys as they are. -/
theorem getElem?_mergeEntry_of_ne {entry other : VersionEntry} {index : Nat}
    (present : entries[index]? = some other) (different : other.key ≠ entry.key) :
    (mergeEntry entry entries)[index]? = some other := by
  induction entries generalizing index with
  | nil => cases present
  | cons first rest inductionHypothesis =>
    rw [mergeEntry]
    cases index with
    | zero =>
      obtain rfl : first = other := Option.some.inj present
      rw [if_neg different]
      rfl
    | succ index =>
      split
      · exact present
      · exact inductionHypothesis present

/-- Merging an entry leaves an entry as it is that has the key of an earlier one. -/
theorem getElem?_mergeEntry_of_repeated {entry other : VersionEntry} {index : Nat}
    (present : entries[index]? = some other)
    (repeated : other.key ∈ (entries.map (·.key)).take index) :
    (mergeEntry entry entries)[index]? = some other := by
  induction entries generalizing index with
  | nil => cases present
  | cons first rest inductionHypothesis =>
    cases index with
    | zero => cases repeated
    | succ index =>
      rw [mergeEntry]
      split
      · exact present
      · next replaced =>
        -- The first entry is not the one that is replaced, but it may be the earlier one.
        rcases List.mem_cons.mp repeated with same | later
        · exact getElem?_mergeEntry_of_ne present (same ▸ replaced)
        · exact inductionHypothesis present later

end OneEntry

section Steps

/-- The first of some entries brings its key, unless that is known, and the others bring
the keys that are still new. -/
theorem newKeys_cons (known : List EntryKey) (entry : VersionEntry)
    (updated : List VersionEntry) :
    newKeys known (entry :: updated) =
      if entry.key ∈ known then newKeys known updated
      else entry.key :: newKeys (known ++ [entry.key]) updated := by
  unfold newKeys
  by_cases here : entry.key ∈ known
  · simp [here]
  · rw [if_neg here, List.map_cons, List.filter_cons, if_pos (decide_eq_true here),
      List.eraseDups_cons, List.filter_filter]
    congr 3
    funext key
    by_cases same : key = entry.key <;> simp [same]

theorem mem_newKeys {known : List EntryKey} {key : EntryKey} :
    key ∈ newKeys known updated ↔ key ∈ updated.map (·.key) ∧ key ∉ known := by
  rw [newKeys, List.mem_eraseDups, List.mem_filter, decide_eq_true_eq]

/-- New keys are different from each other. -/
theorem nodup_newKeys (known : List EntryKey) (updated : List VersionEntry) :
    (newKeys known updated).Nodup := by
  induction updated generalizing known with
  | nil => exact List.nodup_nil
  | cons entry updated inductionHypothesis =>
    rw [newKeys_cons]
    split
    · exact inductionHypothesis known
    · refine List.nodup_cons.mpr ⟨fun again => ?_, inductionHypothesis _⟩
      exact (mem_newKeys.mp again).2 (List.mem_append_right _ List.mem_cons_self)

/-- Before anything is merged, the entries are the old ones. -/
theorem merged_nothing (old : List VersionEntry) : Merged old [] old where
  keys := by simp [newKeys]
  versions _ := rfl
  repeated _ _ present _ := present

/-- Entries merged into what the first of them leaves are merged after it. -/
theorem Merged.step {entry : VersionEntry} (rest : Merged (mergeEntry entry old) updated merged) :
    Merged old (entry :: updated) merged where
  keys := by
    rw [rest.keys, keys_mergeEntry, newKeys_cons]
    split
    · rfl
    · rw [List.append_assoc, List.singleton_append]
  versions key := by
    rw [rest.versions, versionFor?_mergeEntry, latestFor?_cons, Option.or_assoc]
    by_cases here : entry.key = key
    · simp [here]
    · have other : ¬ key = entry.key := fun same => here same.symm
      simp [here, other]
  repeated index other present earlier := by
    refine rest.repeated index other (getElem?_mergeEntry_of_repeated present earlier) ?_
    rw [keys_mergeEntry]
    split
    · exact earlier
    · rw [List.take_append]
      exact List.mem_append_left _ earlier

/-- Merging the same entries again may leave what is there: all of their keys are known, and
their versions are those that were merged. -/
theorem Merged.again (left : Merged old updated merged) : Merged merged updated merged where
  keys := by
    have none : newKeys (merged.map (·.key)) updated = [] := by
      refine List.eq_nil_iff_forall_not_mem.mpr fun key new => ?_
      obtain ⟨given, fresh⟩ := mem_newKeys.mp new
      rw [left.keys, List.mem_append, not_or, mem_newKeys, not_and, Decidable.not_not] at fresh
      exact fresh.1 (fresh.2 given)
    rw [none, List.append_nil]
  versions key := by rw [left.versions, ← Option.or_assoc, Option.or_self]
  repeated _ _ present _ := present

/-- Merging leaves what it should. The induction merges one entry after another. -/
theorem merged_mergeEntries (old updated : List VersionEntry) :
    Merged old updated (mergeEntries old updated) := by
  induction updated generalizing old with
  | nil => exact merged_nothing old
  | cons entry updated inductionHypothesis => exact (inductionHypothesis (mergeEntry entry old)).step

end Steps

section Determined

/-- The first entry with a key has the version of the key. -/
theorem versionFor?_of_first {entry : VersionEntry} {index : Nat}
    (present : entries[index]? = some entry)
    (first : entry.key ∉ (entries.map (·.key)).take index) :
    versionFor? entries entry.key = some entry.version := by
  induction entries generalizing index with
  | nil => cases present
  | cons head rest inductionHypothesis =>
    rw [versionFor?_cons]
    cases index with
    | zero =>
      obtain rfl : head = entry := Option.some.inj present
      rw [if_pos rfl]
    | succ index =>
      obtain ⟨different, first⟩ := not_or.mp (mt List.mem_cons.mpr first)
      rw [if_neg fun same => different same.symm]
      exact inductionHypothesis present first

/-- An entry that is left with the key of an earlier one is an old entry. -/
theorem Merged.old_of_repeated (left : Merged old updated merged) {entry : VersionEntry}
    {index : Nat} (present : merged[index]? = some entry)
    (repeated : entry.key ∈ (merged.map (·.key)).take index) : old[index]? = some entry := by
  have key : (merged.map (·.key))[index]? = some entry.key := by simp [present]
  rw [left.keys] at key repeated
  by_cases within : index < (old.map (·.key)).length
  · rw [List.getElem?_append_left within, List.getElem?_map, Option.map_eq_some_iff] at key
    rw [List.take_append_of_le_length (Nat.le_of_lt within)] at repeated
    obtain ⟨source, given, same⟩ := key
    have untouched := left.repeated index source given (same ▸ repeated)
    rw [given, ← untouched, present]
  · -- A new key is neither an old one nor one of the new keys before it.
    have beyond := Nat.le_of_not_lt within
    rw [List.getElem?_append_right beyond] at key
    rw [List.take_append, List.take_of_length_le beyond] at repeated
    rcases List.mem_append.mp repeated with known | again
    · exact absurd known (mem_newKeys.mp (List.mem_of_getElem? key)).2
    · obtain ⟨before, inside, same⟩ := List.mem_take_iff_getElem.mp again
      have found := List.getElem?_eq_getElem (Nat.lt_of_lt_of_le inside (Nat.min_le_right _ _))
      rw [same, ← key] at found
      have places := (List.getElem?_inj (by omega) (nodup_newKeys _ updated)).mp found
      omega

/-- What a merge leaves is determined. An entry that is the first with its key has the
version of the key, and any other entry is an old one. -/
theorem Merged.unique {others : List VersionEntry} (left : Merged old updated merged)
    (right : Merged old updated others) : merged = others := by
  have keys : merged.map (·.key) = others.map (·.key) := left.keys.trans right.keys.symm
  have lengths : merged.length = others.length := by simpa using congrArg List.length keys
  refine List.ext_getElem lengths fun index inside inside' => ?_
  have present := List.getElem?_eq_getElem inside
  have present' := List.getElem?_eq_getElem inside'
  generalize merged[index] = entry at present ⊢
  generalize others[index] = other at present' ⊢
  have same : entry.key = other.key := by
    have found := congrArg (·[index]?) keys
    simpa [present, present'] using found
  by_cases repeated : entry.key ∈ (merged.map (·.key)).take index
  · have given := left.old_of_repeated present repeated
    have given' := right.old_of_repeated present' (keys ▸ same ▸ repeated)
    exact Option.some.inj (given.symm.trans given')
  · have version := versionFor?_of_first present repeated
    have version' := versionFor?_of_first present' (keys ▸ same ▸ repeated)
    rw [left.versions, ← right.versions, same, version'] at version
    obtain ⟨key, text⟩ := entry
    obtain ⟨key', text'⟩ := other
    exact congr (congrArg VersionEntry.mk same) (Option.some.inj version).symm

end Determined

/-- The entries that a merge leaves are determined by three facts: old entries keep their
places and keys, with the new keys behind them; the version of a key is the last one that was
merged for it, or else the old one; and old entries that are not the first with their key are
as before. If the old keys are distinct, so are those of the merged entries. Merging the
same entries again changes nothing. -/
theorem mergeEntries_lastWins (old updated : List VersionEntry) :
    Merged old updated (mergeEntries old updated) ∧
    (∀ merged, Merged old updated merged → merged = mergeEntries old updated) ∧
    ((old.map (·.key)).Nodup → ((mergeEntries old updated).map (·.key)).Nodup) ∧
    mergeEntries (mergeEntries old updated) updated = mergeEntries old updated := by
  have left := merged_mergeEntries old updated
  refine ⟨left, fun merged other => other.unique left, fun distinct => ?_, ?_⟩
  · rw [left.keys]
    refine List.nodup_append.mpr ⟨distinct, nodup_newKeys _ updated, ?_⟩
    rintro key known other new rfl
    exact (mem_newKeys.mp new).2 known
  · exact (merged_mergeEntries _ updated).unique left.again

/-- Keys that repeat on both sides: the first old entry takes the last version, the second
keeps its own. -/
example :
    mergeEntries [.of "nami" "" "1", .of "coral" "" "2", .of "nami" "" "3"]
        [.of "eve" "eve" "4", .of "nami" "" "5", .of "eve" "eve" "6", .of "nami" "" "7"] =
      [.of "nami" "" "7", .of "coral" "" "2", .of "nami" "" "3", .of "eve" "eve" "6"] := by
  decide

end StableFleet.Manifest
