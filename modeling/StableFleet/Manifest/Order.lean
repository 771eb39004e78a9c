import StableFleet.Manifest.Basic

/-!
# The canonical order of a manifest

Entries stand in the order of their names with capitals made small, then of the
names themselves, then of their versions. Entries that agree in all three keep
their places; such entries may still differ, as `board:model` is also the name
of a key whose build target is `board:model` and whose model is empty.
-/

namespace StableFleet

namespace VersionEntry

/-- What the place of an entry depends on. -/
def rank (entry : VersionEntry) : String × String × String :=
  (Text.LetterCase.lower entry.key.composite, entry.key.composite, entry.version)

/-- Whether one rank comes no later than another. -/
def rankLe (left right : String × String × String) : Bool :=
  left.1 < right.1 ||
    (left.1 = right.1 &&
      (left.2.1 < right.2.1 || (left.2.1 = right.2.1 && left.2.2 ≤ right.2.2)))

/-- Whether one entry may stand before another. -/
def mayPrecede (left right : VersionEntry) : Bool := rankLe left.rank right.rank

end VersionEntry

namespace Manifest

/-- Entries in canonical order. -/
def sortEntries (entries : List VersionEntry) : List VersionEntry :=
  entries.mergeSort VersionEntry.mayPrecede

/-- The manifest with every section in canonical order. -/
def sort (manifest : Manifest) : Manifest := manifest.mapSections sortEntries

/-- Ordering entries neither adds nor drops one. -/
theorem sortEntries_perm (entries : List VersionEntry) : (sortEntries entries).Perm entries :=
  List.mergeSort_perm entries _

end Manifest

end StableFleet
