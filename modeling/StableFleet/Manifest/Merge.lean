import StableFleet.Manifest.Basic

/-!
# Merging entries

New entries are merged into old ones one at a time. The first old entry with the
same key takes the new version and keeps its place; an entry with a new key goes
to the end.
-/

namespace StableFleet.Manifest

/-- Merges one entry. -/
def mergeEntry (entry : VersionEntry) : List VersionEntry → List VersionEntry
  | [] => [entry]
  | first :: rest =>
    if first.key = entry.key then { first with version := entry.version } :: rest
    else first :: mergeEntry entry rest

/-- Merges entries in their order. -/
def mergeEntries (old updated : List VersionEntry) : List VersionEntry :=
  updated.foldl (fun merged entry => mergeEntry entry merged) old

/-- The manifest with entries merged into one section. -/
def addUpdated (manifest : Manifest) (part : Section) (updated : List VersionEntry) : Manifest :=
  manifest.modify part fun old => mergeEntries old updated

/-- The entry that was merged is the one found under its key, and what is found
under any other key is as before. -/
theorem versionFor?_mergeEntry (entry : VersionEntry) (entries : List VersionEntry)
    (key : EntryKey) :
    versionFor? (mergeEntry entry entries) key =
      if key = entry.key then some entry.version else versionFor? entries key := by
  induction entries with
  | nil =>
    by_cases same : key = entry.key
    · subst same
      simp [mergeEntry, versionFor?]
    · have other : ¬ entry.key = key := fun equal => same equal.symm
      simp [mergeEntry, versionFor?, other, same]
  | cons first rest inductionHypothesis =>
    simp only [versionFor?] at inductionHypothesis
    by_cases replaced : first.key = entry.key
    · by_cases same : key = entry.key
      · simp [mergeEntry, versionFor?, replaced, same]
      · have other : ¬ entry.key = key := fun equal => same equal.symm
        simp [mergeEntry, versionFor?, replaced, same, other]
    · by_cases here : first.key = key
      · have same : ¬ key = entry.key := fun equal => replaced (here.trans equal)
        simp [mergeEntry, versionFor?, here, same]
      · simp [mergeEntry, versionFor?, replaced, here, inductionHypothesis]

end StableFleet.Manifest
