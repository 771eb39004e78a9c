import StableFleet.Proofs.Manifest.Document
import StableFleet.Proofs.Manifest.Order

/-!
# Writing a manifest and reading it back

The bytes of a manifest are read as the manifest in canonical order. So writing what
has been read gives the same bytes, and two manifests have the same bytes exactly
when they have the same canonical order.

The canonical order does not depend on how the entries of a section are arranged,
but for entries that have the same name and the same version without being the same.
These are entries about a board named like another board with a model.
-/

namespace StableFleet.Manifest

/-- The bytes of a manifest are read as the manifest in canonical order. -/
theorem decode_encode [Json.Complaint] (manifest : Manifest) :
    decode manifest.encode = .ok manifest.sort := by
  have whole : manifest.sort.toValue = manifest.sort.valueOf Section.all := rfl
  have found : shape (manifest.sort.valueOf Section.all) = .ok manifest.sort :=
    manifest.sort.shape_valueOf (by decide) (by intro part; cases part <;> decide)
  simp only [decode, encode_eq_written, parse?_written, whole, found]

/-- A manifest in canonical order has the bytes of the manifest. -/
theorem encode_sort (manifest : Manifest) : manifest.sort.encode = manifest.encode := by
  rw [encode, sort_sort, encode]

/-- Manifests have the same bytes exactly when they have the same canonical order. -/
theorem encode_eq_iff_sort_eq {left right : Manifest} :
    left.encode = right.encode ↔ left.sort = right.sort := by
  constructor
  · intro same
    have read := left.decode_encode
    rw [same, decode_encode] at read
    exact (Except.ok.inj read).symm
  · intro same
    rw [← encode_sort, same, encode_sort]

/-- Manifests have the same canonical order exactly when their sections have the same
namesakes. -/
theorem sort_eq_iff {left right : Manifest} :
    left.sort = right.sort ↔ ∀ part name version,
      namesakes name version (left.entries part) = namesakes name version (right.entries part) := by
  constructor
  · intro same part
    have ordered := congrArg (fun manifest => manifest.entries part) same
    simp only [sort, entries_mapSections] at ordered
    exact sortEntries_eq_iff.mp ordered
  · intro same
    refine ext_entries fun part => ?_
    simp only [sort, entries_mapSections]
    exact sortEntries_eq_iff.mpr (same part)

/-- A section has the same entries in canonical order. -/
theorem entries_sort_perm (manifest : Manifest) (part : Section) :
    (manifest.sort.entries part).Perm (manifest.entries part) := by
  rw [sort, entries_mapSections]
  exact sortEntries_perm _

theorem entries_sort_eq_nil_iff (manifest : Manifest) (part : Section) :
    manifest.sort.entries part = [] ↔ manifest.entries part = [] := by
  have permuted := manifest.entries_sort_perm part
  exact ⟨fun none => List.nil_perm.mp (none ▸ permuted), fun none =>
    List.perm_nil.mp (none ▸ permuted)⟩

/-- What is written is read back: the manifest whose sections have the same entries in
canonical order, and among the entries of one name and version in the order they had.
Writing it again gives the same bytes. -/
theorem encode_read_back [Json.Complaint] (manifest : Manifest) :
    decode manifest.encode = .ok manifest.sort ∧
      (∀ part, (manifest.sort.entries part).Perm (manifest.entries part) ∧
        (manifest.sort.entries part).Pairwise VersionEntry.NoLater ∧
        ∀ name version, namesakes name version (manifest.sort.entries part) =
          namesakes name version (manifest.entries part)) ∧
      (decode manifest.encode).map encode = .ok manifest.encode := by
  refine ⟨manifest.decode_encode, fun part => ?_, ?_⟩
  · simp only [sort, entries_mapSections]
    have ordered := (sortEntries_ordered (manifest.entries part)).imp
      VersionEntry.mayPrecede_iff.mp
    exact ⟨sortEntries_perm _, ordered, fun name version => namesakes_sortEntries name version _⟩
  · rw [decode_encode, Except.map, encode_sort]

/-- Manifests with rearranged sections have the same bytes exactly when the entries of
one name and version follow each other in the same way in both. In particular they
have the same bytes when no build target has the mark that joins it to a model. -/
theorem encode_eq_iff_of_perm {left right : Manifest}
    (permuted : ∀ part, (left.entries part).Perm (right.entries part)) :
    (left.encode = right.encode ↔ ∀ part name version,
      namesakes name version (left.entries part) = namesakes name version (right.entries part)) ∧
    ((∀ part, ∀ entry ∈ left.entries part, ':' ∉ entry.key.buildTarget.toList) →
      left.encode = right.encode) := by
  have decided : left.encode = right.encode ↔ ∀ part name version,
      namesakes name version (left.entries part) = namesakes name version (right.entries part) :=
    encode_eq_iff_sort_eq.trans sort_eq_iff
  refine ⟨decided, fun plain => decided.mpr fun part name version => ?_⟩
  exact namesakes_eq_of_perm (permuted part) (plain part) name version

/-- A manifest with the entries of every section in reverse. -/
def reverse (manifest : Manifest) : Manifest := manifest.mapSections List.reverse

theorem reverse_perm (manifest : Manifest) (part : Section) :
    (manifest.reverse.entries part).Perm (manifest.entries part) := by
  rw [reverse, entries_mapSections]
  exact List.reverse_perm _

/-- A manifest with names that differ in capitals only, and a name that has two
versions. -/
def capitalized : Manifest where
  cros := [.of "nami" "" "R77-12371.52.22", .of "Coral" "" "R80-12739.1.0",
    .of "coral" "" "R80-12739.1.0", .of "nami" "" "R80-12739.1.0"]
  firmware := [.of "nami" "sona" "Google_Nami.8438.184.0", .of "coral" "" "Google_Coral.1.2.3"]

theorem encode_reverse_capitalized : capitalized.reverse.encode = capitalized.encode :=
  (encode_eq_iff_of_perm capitalized.reverse_perm).2 fun part => by
    cases part <;> decide

/-- A manifest with a board that is named like another board with a model. -/
def ambiguous : Manifest where
  cros := [.of "nami:sona" "" "R77-12371.52.22", .of "nami" "sona" "R77-12371.52.22"]

/-- The bytes depend on the arrangement of a section when a build target has the mark
that joins it to a model. -/
theorem encode_reverse_ambiguous :
    (∀ part, (ambiguous.reverse.entries part).Perm (ambiguous.entries part)) ∧
      ambiguous.reverse.encode ≠ ambiguous.encode := by
  refine ⟨ambiguous.reverse_perm, fun same => ?_⟩
  have alike := sort_eq_iff.mp (encode_eq_iff_sort_eq.mp same) .cros "nami:sona" "R77-12371.52.22"
  exact absurd alike (by decide)

end StableFleet.Manifest
