import Mathlib.Data.List.Enum
import StableFleet.Proofs.Manifest.Document
import StableFleet.Proofs.Manifest.Order
import StableFleet.Proofs.Validation.Rules

/-!
# What a check of a manifest file admits

A file check looks for the first fault. It finds none exactly when every section
is admissible: every entry keeps the rules of its section, and no two entries of a
section have the same name.

The bytes of a manifest hold the manifest in canonical order. So what a check says
of them is said by the rules alone.
-/

namespace StableFleet.Shallow

open Json (Value)

variable {strict : Bool} {part : Section}

/-- An entry that keeps the rules of its section. -/
structure Admissible (strict : Bool) (part : Section) (entry : VersionEntry) : Prop where
  buildTarget : Text.LetterCase.isLowercase entry.key.buildTarget = true
  model : Text.LetterCase.isLowercase entry.key.model = true
  named : entry.key.buildTarget ≠ ""
  suited : modelFault? strict part entry.key.model = none
  version : isVersionOf part entry.version = true

/-- An entry keeps its rules when it is admissible and no earlier one has its name. -/
theorem entryRules_kept_iff {earlier : List VersionEntry} {entry : VersionEntry} :
    (∀ rule ∈ entryRules strict part earlier entry, rule.kept) ↔
      Admissible strict part entry ∧
        ∀ other ∈ earlier, other.key.composite ≠ entry.key.composite := by
  have suited := (decides_modelFault strict part entry.key.model).eq_none_iff
  rw [List.forall_mem_singleton] at suited
  simp only [entryRules, List.forall_mem_cons]
  constructor
  · rintro ⟨⟨buildTarget, model⟩, named, suits, new, version, _⟩
    exact ⟨⟨buildTarget, model, named, suited.mpr suits, isVersionOf_iff.mpr version⟩, new⟩
  · rintro ⟨⟨buildTarget, model, named, suits, version⟩, new⟩
    exact ⟨⟨buildTarget, model⟩, named, suited.mp suits, new, isVersionOf_iff.mp version,
      List.forall_mem_nil _⟩

/-- Names are distinct when none is that of an earlier entry. -/
theorem nodup_composite_iff {entries : List VersionEntry} :
    (entries.map fun entry => entry.key.composite).Nodup ↔
      ∀ (index : Nat) (inside : index < entries.length), ∀ other ∈ entries.take index,
        other.key.composite ≠ entries[index].key.composite := by
  rw [List.nodup_iff_pairwise_ne, List.pairwise_map, List.pairwise_iff_getElem]
  constructor
  · intro distinct index inside other earlier
    obtain ⟨position, before, rfl⟩ := List.mem_take_iff_getElem.mp earlier
    exact distinct position index (by omega) inside (by omega)
  · intro new position index _ inside before
    exact new index inside _ (List.mem_take_iff_getElem.mpr ⟨position, by omega, rfl⟩)

/-- A section without a fault: its entries keep the rules, and no two have the same
name. -/
structure SectionAdmissible (strict : Bool) (part : Section) (entries : List VersionEntry) :
    Prop where
  admissible : ∀ entry ∈ entries, Admissible strict part entry
  distinct : (entries.map fun entry => entry.key.composite).Nodup

theorem sectionFault?_eq_none_iff {manifest : Manifest} :
    sectionFault? strict manifest part = none ↔
      SectionAdmissible strict part (manifest.entries part) := by
  have each : sectionFault? strict manifest part = none ↔
      ∀ (index : Nat) (inside : index < (manifest.entries part).length),
        ∀ rule ∈ entryRules strict part ((manifest.entries part).take index)
          (manifest.entries part)[index], rule.kept := by
    rw [(decides_sectionFault strict manifest part).eq_none_iff, sectionRules]
    simp only [List.forall_mem_flatMap, List.forall_mem_zipIdx, List.forall_mem_map, Rule.as,
      Nat.zero_add]
  simp only [each, entryRules_kept_iff]
  constructor
  · intro kept
    refine ⟨fun entry present => ?_, nodup_composite_iff.mpr fun index inside => ?_⟩
    · obtain ⟨index, inside, rfl⟩ := List.mem_iff_getElem.mp present
      exact (kept index inside).1
    · exact (kept index inside).2
  · rintro ⟨admissible, distinct⟩ index inside
    exact ⟨admissible _ (List.getElem_mem inside), nodup_composite_iff.mp distinct index inside⟩

/-- A manifest has no fault when it has operating-system entries and a firmware
section, and every section is admissible. -/
theorem manifestFault?_eq_none_iff {hasFirmware : Bool} {manifest : Manifest} :
    manifestFault? strict hasFirmware manifest = none ↔
      manifest.cros ≠ [] ∧ hasFirmware = true ∧
        ∀ part, SectionAdmissible strict part (manifest.entries part) := by
  have sections : Section.all.findSome? (sectionFault? strict manifest) = none ↔
      ∀ part, SectionAdmissible strict part (manifest.entries part) := by
    rw [List.findSome?_eq_none_iff]
    constructor
    · intro all part
      exact sectionFault?_eq_none_iff.mp (all part (by cases part <;> decide))
    · intro all part _
      exact sectionFault?_eq_none_iff.mpr (all part)
  unfold manifestFault?
  cases entries : manifest.cros with
  | nil => simp
  | cons entry others => cases hasFirmware <;> simp [sections]

/-- The document that a manifest is written as is read. -/
theorem readDocument_written (manifest : Manifest) :
    readDocument manifest.written = .ok (manifest.valueOf Manifest.byName) := by
  have nonempty : manifest.written.isEmpty = false := by simp [Manifest.written]
  have text := Bytes.isSome_text?_of_wellFormed manifest.wellFormed_written
  have canonical : (Value.parse? manifest.written).bind Value.canonical? =
      some (manifest.valueOf Manifest.byName) := by
    rw [manifest.parse?_written, Option.bind_some, Manifest.canonical?_toValue]
  rw [readDocument, nonempty, canonical]
  simp [Option.isSome_iff_ne_none.mp text, Manifest.valueOf, Value.ofMembers, Value.isObject]

/-- A check of a written manifest finds the manifest, or the first fault of it. -/
theorem inspect_written (strict : Bool) (manifest : Manifest) :
    inspect strict manifest.written =
      (manifestFault? strict (!manifest.firmware.isEmpty) manifest).elim (.ok manifest) .error := by
  have shaped : Manifest.shape (manifest.valueOf Manifest.byName) = .ok manifest :=
    manifest.shape_valueOf (by decide) (by intro part; cases part <;> decide)
  rw [inspect, readDocument_written]
  show readManifest strict _ = _
  simp only [readManifest, shaped, Manifest.isSome_firmware]
  cases manifestFault? strict (!manifest.firmware.isEmpty) manifest with
  | none => rfl
  | some fault => rfl

/-- A check of the bytes of a manifest finds the manifest in canonical order, or the
first fault of it. -/
theorem inspect_encode (strict : Bool) (manifest : Manifest) :
    inspect strict manifest.encode =
      (manifestFault? strict (!manifest.sort.firmware.isEmpty) manifest.sort).elim
        (.ok manifest.sort) .error := by
  rw [Manifest.encode_eq_written, inspect_written]

/-- A check accepts the bytes of a manifest that is in canonical order exactly when
the manifest has entries in both sections that are asked for and every section is
admissible. -/
theorem inspectBuffer_encode_iff [Json.Complaint] (strict : Bool) {manifest : Manifest}
    (sorted : manifest.sort = manifest) :
    inspectBuffer strict manifest.encode = .ok manifest ↔
      manifest.cros ≠ [] ∧ manifest.firmware ≠ [] ∧
        ∀ part, SectionAdmissible strict part (manifest.entries part) := by
  have present : (!manifest.firmware.isEmpty) = true ↔ manifest.firmware ≠ [] := by simp
  rw [← present, ← manifestFault?_eq_none_iff, inspectBuffer, inspect_encode, sorted]
  cases manifestFault? strict (!manifest.firmware.isEmpty) manifest with
  | none => exact ⟨fun _ => rfl, fun _ => rfl⟩
  | some fault => exact ⟨nofun, nofun⟩

end StableFleet.Shallow
