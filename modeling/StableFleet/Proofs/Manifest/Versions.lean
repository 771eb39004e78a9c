import StableFleet.Proofs.Manifest.Order

/-!
# The versions of keys

The version of a key is that of the first entry with the key, and its last version that of
the last such entry. Where keys are distinct the two are the same, and do not depend on the
order of the entries.
-/

namespace StableFleet.Manifest

variable {entries : List VersionEntry}

/-- The version of a key is that of the first entry if it has the key, and else that of
the other entries. -/
theorem versionFor?_cons (entry : VersionEntry) (entries : List VersionEntry) (key : EntryKey) :
    versionFor? (entry :: entries) key =
      if entry.key = key then some entry.version else versionFor? entries key := by
  rw [versionFor?, List.find?_cons]
  by_cases here : entry.key = key
  · simp [here]
  · simp [here, versionFor?]

/-- The version of a key is that in the first of two lists that has the key. -/
theorem versionFor?_append (entries others : List VersionEntry) (key : EntryKey) :
    versionFor? (entries ++ others) key = (versionFor? entries key).or (versionFor? others key) := by
  rw [versionFor?, List.find?_append, Option.map_or]
  rfl

/-- The version of a key is known from the entries of its build target. -/
theorem versionFor?_filter (entries : List VersionEntry) (buildTarget model : String) :
    versionFor? (entries.filter fun entry => entry.key.buildTarget = buildTarget)
        ⟨buildTarget, model⟩ = versionFor? entries ⟨buildTarget, model⟩ := by
  rw [versionFor?, versionFor?, List.find?_filter]
  congr 2
  funext entry
  obtain ⟨⟨board, name⟩, version⟩ := entry
  simp only [EntryKey.mk.injEq, decide_eq_true_eq, and_self_left]

/-- The version of a key is that of one of its entries. -/
theorem mem_of_versionFor? {key : EntryKey} {version : String}
    (found : versionFor? entries key = some version) : ⟨key, version⟩ ∈ entries := by
  obtain ⟨entry, first, rfl⟩ := Option.map_eq_some_iff.mp found
  have same : entry.key = key := by simpa using List.find?_some first
  subst same
  exact List.mem_of_find?_eq_some first

/-- Where keys are distinct, the version of a key is that of its entry. -/
theorem versionFor?_eq_some_iff (distinct : (entries.map (·.key)).Nodup) {key : EntryKey}
    {version : String} : versionFor? entries key = some version ↔ ⟨key, version⟩ ∈ entries := by
  refine ⟨mem_of_versionFor?, fun present => ?_⟩
  cases found : versionFor? entries key with
  | none =>
    have absent := List.find?_eq_none.mp (Option.map_eq_none_iff.mp found) _ present
    exact absurd (decide_eq_true rfl) absent
  | some other =>
    have same := VersionEntry.eq_of_key_eq distinct (mem_of_versionFor? found) present rfl
    exact congrArg (some ·.version) same

/-- The version of a key does not depend on the order of entries with distinct keys. -/
theorem versionFor?_of_perm {others : List VersionEntry}
    (distinct : (entries.map (·.key)).Nodup) (permuted : entries.Perm others) (key : EntryKey) :
    versionFor? entries key = versionFor? others key := by
  apply Option.ext
  intro version
  rw [versionFor?_eq_some_iff distinct,
    versionFor?_eq_some_iff ((permuted.map _).nodup_iff.mp distinct), permuted.mem_iff]

/-- The version of the last entry with a key. -/
def latestFor? (entries : List VersionEntry) (key : EntryKey) : Option String :=
  versionFor? entries.reverse key

/-- The last version of a key is that of the last entry if it has the key, and else that of
the entries before it. -/
theorem latestFor?_append (entries : List VersionEntry) (entry : VersionEntry) (key : EntryKey) :
    latestFor? (entries ++ [entry]) key =
      if entry.key = key then some entry.version else latestFor? entries key := by
  rw [latestFor?, List.reverse_concat, versionFor?_cons]
  rfl

/-- The last version of a key is that of a later entry if one has the key, and else that of
the first entry if it has. -/
theorem latestFor?_cons (entry : VersionEntry) (entries : List VersionEntry) (key : EntryKey) :
    latestFor? (entry :: entries) key =
      (latestFor? entries key).or (if entry.key = key then some entry.version else none) := by
  rw [latestFor?, latestFor?, List.reverse_cons, versionFor?_append, versionFor?_cons]
  rfl

/-- The last version of a key is that of the last entry with the key. -/
theorem latestFor?_eq (entries : List VersionEntry) (key : EntryKey) :
    latestFor? entries key =
      (entries.filter (·.key = key)).getLast?.map (·.version) := by
  rw [latestFor?, versionFor?, List.getLast?_eq_head?_reverse,
    ← List.filter_reverse, List.head?_filter]

/-- The last version of a key is known from the entries of its build target. -/
theorem latestFor?_filter (entries : List VersionEntry) (buildTarget model : String) :
    latestFor? (entries.filter fun entry => entry.key.buildTarget = buildTarget)
        ⟨buildTarget, model⟩ = latestFor? entries ⟨buildTarget, model⟩ := by
  rw [latestFor?, ← List.filter_reverse, versionFor?_filter]
  rfl

/-- Where keys are distinct, the last entry with a key is the first one. -/
theorem latestFor?_of_distinct (distinct : (entries.map (·.key)).Nodup) (key : EntryKey) :
    latestFor? entries key = versionFor? entries key :=
  (versionFor?_of_perm distinct (List.reverse_perm _).symm key).symm

end StableFleet.Manifest
