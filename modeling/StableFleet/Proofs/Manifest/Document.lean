import StableFleet.Json.Canonical
import StableFleet.Manifest.Document
import StableFleet.Proofs.Json.Members
import StableFleet.Proofs.Json.RoundTrip

/-!
# What a written manifest holds

A key, an entry and a section are found again in the values that they are written
as, and so are the sections of a manifest, in whatever order they stand. A written
manifest is canonical but for the order of its sections.
-/

namespace StableFleet

open Json (Value Shape)

namespace EntryKey

/-- A key is found in its value. -/
theorem shape_toValue (key : EntryKey) : shape key.toValue = .ok key := by
  obtain ⟨buildTarget, model⟩ := key
  by_cases missing : model = ""
  · subst missing
    simp +decide [shape, toValue, Value.ofMembers, Value.ofText, Shape.record, Shape.field,
      Shape.putMembers, Shape.text, Except.map, bind, Except.bind]
  · simp +decide [missing, shape, toValue, Value.ofMembers, Value.ofText, Shape.record,
      Shape.field, Shape.putMembers, Shape.text, Except.map, bind, Except.bind]

/-- The value of a key has its members in order, on two levels. -/
theorem canonicalWithin?_toValue (levels : Nat) (key : EntryKey) :
    key.toValue.canonicalWithin? (levels + 2) = some key.toValue := by
  obtain ⟨buildTarget, model⟩ := key
  by_cases missing : model = ""
  · subst missing
    simp [toValue, Value.ofMembers, Value.ofText, Value.canonicalWithin?,
      Value.canonicalMembers?, Value.sortMembers, Value.putMember]
  · have ordered : ¬ Bytes.ofText "modelId" < Bytes.ofText "buildTarget" := by decide +kernel
    have distinct : ¬ Bytes.ofText "modelId" = Bytes.ofText "buildTarget" := by decide +kernel
    simp [missing, ordered, distinct, toValue, Value.ofMembers, Value.ofText,
      Value.canonicalWithin?, Value.canonicalMembers?, Value.sortMembers, Value.putMember]

theorem regular_toValue (key : EntryKey) : key.toValue.Regular := by
  obtain ⟨buildTarget, model⟩ := key
  have named := Bytes.wellFormed_ofText
  by_cases missing : model = ""
  · subst missing
    simp [toValue, Value.ofMembers, Value.ofText, Value.Regular, Value.RegularMembers, named]
  · simp [missing, toValue, Value.ofMembers, Value.ofText, Value.Regular, Value.RegularMembers,
      named]

end EntryKey

namespace VersionEntry

/-- An entry is found in its value. -/
theorem shape_toValue (entry : VersionEntry) : shape entry.toValue = .ok entry := by
  simp +decide [shape, toValue, EntryKey.shape_toValue, Value.ofMembers, Value.ofText, Shape.record,
    Shape.field, Shape.putMembers, Shape.text, Except.map, bind, Except.bind]

/-- The value of an entry has its members in order, on three levels. -/
theorem canonicalWithin?_toValue (levels : Nat) (entry : VersionEntry) :
    entry.toValue.canonicalWithin? (levels + 3) = some entry.toValue := by
  have ordered : ¬ Bytes.ofText "version" < Bytes.ofText "key" := by decide +kernel
  have distinct : ¬ Bytes.ofText "version" = Bytes.ofText "key" := by decide +kernel
  have key := EntryKey.canonicalWithin?_toValue levels entry.key
  simp [key, ordered, distinct, toValue, Value.ofMembers, Value.ofText, Value.canonicalWithin?,
    Value.canonicalMembers?, Value.sortMembers, Value.putMember]

theorem regular_toValue (entry : VersionEntry) : entry.toValue.Regular := by
  have named := Bytes.wellFormed_ofText
  simp [toValue, Value.ofMembers, Value.ofText, Value.Regular, Value.RegularMembers, named,
    EntryKey.regular_toValue]

end VersionEntry

namespace Manifest

/-- Entries are found in their values. -/
theorem items_toValue (entries : List VersionEntry) :
    Shape.items VersionEntry.shape (entries.map VersionEntry.toValue) = .ok entries := by
  induction entries with
  | nil => rfl
  | cons entry entries inductionHypothesis =>
    rw [List.map_cons, Shape.items, VersionEntry.shape_toValue, inductionHypothesis]
    rfl

/-- A section is found in its value. -/
theorem sectionShape_array (entries : List VersionEntry) :
    sectionShape (.array (entries.map VersionEntry.toValue)) = .ok entries := by
  rw [sectionShape, Shape.nullable, Shape.list, items_toValue]
  · rfl
  · nofun

/-- The values of entries are their own canonical forms. -/
theorem canonicalItems?_toValue (levels : Nat) (entries : List VersionEntry) :
    Value.canonicalItems? (levels + 3) (entries.map VersionEntry.toValue) =
      some (entries.map VersionEntry.toValue) := by
  induction entries with
  | nil => rw [List.map_nil, Value.canonicalItems?]
  | cons entry entries inductionHypothesis =>
    rw [List.map_cons, Value.canonicalItems?, VersionEntry.canonicalWithin?_toValue,
      inductionHypothesis]

theorem regularItems_toValue (entries : List VersionEntry) :
    Value.RegularItems (entries.map VersionEntry.toValue) := by
  induction entries with
  | nil => exact trivial
  | cons entry entries inductionHypothesis =>
    rw [List.map_cons, Value.RegularItems]
    exact ⟨entry.regular_toValue, inductionHypothesis⟩

/-- Manifests with the same sections are the same. -/
theorem ext_entries {left right : Manifest}
    (same : ∀ part, left.entries part = right.entries part) : left = right := by
  obtain ⟨cros, firmware, faft⟩ := left
  obtain ⟨cros', firmware', faft'⟩ := right
  have first := same .cros
  have second := same .firmware
  have third := same .faft
  simp only [entries] at first second third
  rw [first, second, third]

/-- Changing a section changes that section and no other. -/
theorem entries_modify (manifest : Manifest) (part other : Section)
    (change : List VersionEntry → List VersionEntry) :
    (manifest.modify part change).entries other =
      if other = part then change (manifest.entries part) else manifest.entries other := by
  cases part <;> cases other <;> rfl

/-- Sections have names of their own. -/
theorem name_injective {left right : Section} (same : left.name = right.name) : left = right := by
  cases left <;> cases right <;> first | rfl | exact absurd same (by decide)

/-- A manifest as a value, with some of its sections in some order. -/
def valueOf (manifest : Manifest) (parts : List Section) : Value :=
  .ofMembers (parts.filterMap manifest.sectionMember)

/-- A section that comes first adds nothing when it has no entry, and otherwise a
member. -/
theorem members_valueOf_cons (manifest : Manifest) (part : Section) (parts : List Section) :
    (manifest.entries part = [] ∧
      (manifest.valueOf (part :: parts)).members = (manifest.valueOf parts).members) ∨
    (manifest.valueOf (part :: parts)).members =
      (Bytes.ofText part.name, .array ((manifest.entries part).map VersionEntry.toValue)) ::
        (manifest.valueOf parts).members := by
  by_cases missing : (manifest.entries part).isEmpty = true
  · have none : manifest.sectionMember part = none := by rw [sectionMember, if_pos missing]
    refine .inl ⟨List.isEmpty_iff.mp missing, ?_⟩
    rw [valueOf, List.filterMap_cons_none none, ← valueOf]
  · have written : manifest.sectionMember part =
        some (part.name, .array ((manifest.entries part).map VersionEntry.toValue)) := by
      rw [sectionMember, if_neg missing]
    refine .inr ?_
    rw [valueOf, List.filterMap_cons_some written]
    rfl

/-- A manifest with some sections taken from another. -/
def takeSections (manifest : Manifest) (parts : List Section) (record : Manifest) : Manifest :=
  parts.foldl (fun held part => held.modify part fun _ => manifest.entries part) record

theorem entries_takeSections (manifest : Manifest) (parts : List Section) (record : Manifest)
    (other : Section) :
    (manifest.takeSections parts record).entries other =
      if other ∈ parts then manifest.entries other else record.entries other := by
  induction parts generalizing record with
  | nil => rfl
  | cons part parts inductionHypothesis =>
    have rest := inductionHypothesis (record.modify part fun _ => manifest.entries part)
    rw [takeSections, List.foldl_cons, ← takeSections, rest, entries_modify]
    by_cases later : other ∈ parts
    · simp [later]
    · by_cases here : other = part
      · simp [here]
      · simp [later, here]

/-- The fields that a manifest is read by. -/
abbrev fields : List (Shape.Field Manifest) :=
  Section.all.map fun part =>
    Shape.field part.name sectionShape fun manifest entries => manifest.modify part fun _ => entries

/-- The field of a section is found by the name of the section. -/
theorem find?_fields (part : Section) :
    fields.find? (fun field => field.name = part.name) =
      some (Shape.field part.name sectionShape
        fun manifest entries => manifest.modify part fun _ => entries) := by
  cases part <;> rfl

/-- Sections that are written in some order are read into a record that has none of
them yet. -/
theorem putMembers_sections (manifest : Manifest) {parts : List Section} (distinct : parts.Nodup)
    (seen : List String) (record : Manifest)
    (fresh : ∀ part ∈ parts, part.name ∉ seen ∧ record.entries part = []) :
    Shape.putMembers fields seen record (manifest.valueOf parts).members =
      .ok (manifest.takeSections parts record) := by
  induction parts generalizing seen record with
  | nil => rfl
  | cons part parts inductionHypothesis =>
    obtain ⟨absent, others⟩ := List.nodup_cons.mp distinct
    obtain ⟨unseen, empty⟩ := fresh part List.mem_cons_self
    rw [takeSections, List.foldl_cons, ← takeSections]
    rcases manifest.members_valueOf_cons part parts with ⟨missing, members⟩ | members
    · have unchanged : (record.modify part fun _ => manifest.entries part) = record := by
        refine ext_entries fun other => ?_
        rw [entries_modify]
        by_cases here : other = part
        · rw [if_pos here, here, empty, missing]
        · rw [if_neg here]
      rw [members, unchanged]
      exact inductionHypothesis others seen record fun other present =>
        fresh other (List.mem_cons_of_mem _ present)
    · have rest := inductionHypothesis others (part.name :: seen)
        (record.modify part fun _ => manifest.entries part) fun other present => by
          have different : other ≠ part := fun same => absent (same ▸ present)
          obtain ⟨unseen', empty'⟩ := fresh other (List.mem_cons_of_mem _ present)
          have renamed : other.name ≠ part.name := fun same => different (name_injective same)
          rw [entries_modify, if_neg different]
          exact ⟨by simp [renamed, unseen'], empty'⟩
      simp only [members, Shape.putMembers, Bytes.text?_ofText, find?_fields, if_neg unseen,
        Shape.field, sectionShape_array]
      exact rest

/-- A manifest is found in its value, in whatever order the sections stand. -/
theorem shape_valueOf (manifest : Manifest) {parts : List Section} (distinct : parts.Nodup)
    (all : ∀ part, part ∈ parts) : shape (manifest.valueOf parts) = .ok manifest := by
  have read := putMembers_sections manifest distinct [] {} fun part _ =>
    ⟨List.not_mem_nil, by cases part <;> rfl⟩
  have whole : manifest.takeSections parts {} = manifest := by
    refine ext_entries fun part => ?_
    rw [entries_takeSections, if_pos (all part)]
  rw [whole] at read
  exact read

/-- The sections in the order of their names. -/
def byName : List Section := [.cros, .faft, .firmware]

theorem canonicalMembers?_sections (levels : Nat) (manifest : Manifest) (parts : List Section) :
    Value.canonicalMembers? (levels + 4) (manifest.valueOf parts).members =
      some (manifest.valueOf parts).members := by
  induction parts with
  | nil => simp [valueOf, Value.ofMembers, Value.members, Value.canonicalMembers?]
  | cons part parts inductionHypothesis =>
    rcases manifest.members_valueOf_cons part parts with ⟨_, members⟩ | members
    · rw [members]
      exact inductionHypothesis
    · simp only [members, Value.canonicalMembers?, Value.isText_ofText, if_true,
        Value.canonicalWithin?, canonicalItems?_toValue, Option.map_some, inductionHypothesis]

/-- A member whose key is below the first key goes before the first member. -/
theorem putMember_before {key other : Bytes} (below : key < other) (value old : Value)
    (rest : List (Bytes × Value)) :
    Value.putMember key value ((other, old) :: rest) = (key, value) :: (other, old) :: rest := by
  rw [Value.putMember, if_pos below]

/-- A member whose key is not below the first key goes after the first member. -/
theorem putMember_after {key other : Bytes} (notBelow : ¬ key < other) (different : key ≠ other)
    (value old : Value) (rest : List (Bytes × Value)) :
    Value.putMember key value ((other, old) :: rest) =
      (other, old) :: Value.putMember key value rest := by
  rw [Value.putMember, if_neg notBelow, if_neg different]

/-- The canonical form of a written manifest has its sections in the order of their
names. -/
theorem canonical?_toValue (manifest : Manifest) :
    manifest.toValue.canonical? = some (manifest.valueOf byName) := by
  have members := canonicalMembers?_sections 122 manifest Section.all
  have sorted : Value.sortMembers (manifest.valueOf Section.all).members =
      (manifest.valueOf byName).members := by
    have firmwareAfter := @putMember_after (Bytes.ofText Section.firmware.name)
      (Bytes.ofText Section.cros.name) (by decide +kernel) (by decide +kernel)
    have faftAfter := @putMember_after (Bytes.ofText Section.faft.name)
      (Bytes.ofText Section.cros.name) (by decide +kernel) (by decide +kernel)
    have faftBefore := @putMember_before (Bytes.ofText Section.faft.name)
      (Bytes.ofText Section.firmware.name) (by decide +kernel)
    have alone (key : Bytes) (value : Value) : Value.putMember key value [] = [(key, value)] := rfl
    obtain ⟨cros, firmware, faft⟩ := manifest
    cases cros <;> cases firmware <;> cases faft <;>
      simp [valueOf, byName, Section.all, sectionMember, entries, Value.ofMembers, Value.members,
        Value.sortMembers, alone, firmwareAfter, faftAfter, faftBefore]
  have whole : manifest.toValue = .object (manifest.valueOf Section.all).members := rfl
  rw [whole, Value.canonical?, Value.nestingLimit, Value.canonicalWithin?, members,
    Option.map_some, sorted]
  rfl

/-- A written manifest has a firmware section when there is firmware. -/
theorem isSome_firmware (manifest : Manifest) :
    ((manifest.valueOf byName).member? Section.firmware.name).isSome =
      !manifest.firmware.isEmpty := by
  obtain ⟨cros, firmware, faft⟩ := manifest
  have notCros : ¬ Bytes.ofText Section.cros.name = Bytes.ofText Section.firmware.name := by
    decide +kernel
  have notFaft : ¬ Bytes.ofText Section.faft.name = Bytes.ofText Section.firmware.name := by
    decide +kernel
  cases cros <;> cases firmware <;> cases faft <;>
    simp [valueOf, byName, sectionMember, entries, Value.ofMembers, Value.member?, Value.members,
      notCros, notFaft]

theorem regularMembers_sections (manifest : Manifest) (parts : List Section) :
    Value.RegularMembers (manifest.valueOf parts).members := by
  induction parts with
  | nil => exact trivial
  | cons part parts inductionHypothesis =>
    rcases manifest.members_valueOf_cons part parts with ⟨_, members⟩ | members
    · rw [members]
      exact inductionHypothesis
    · rw [members, Value.RegularMembers, Value.Regular]
      exact ⟨Bytes.wellFormed_ofText part.name, regularItems_toValue _, inductionHypothesis⟩

theorem regular_toValue (manifest : Manifest) : manifest.toValue.Regular := by
  have members := manifest.regularMembers_sections Section.all
  rw [toValue, Value.ofMembers, Value.Regular]
  exact members

/-- A manifest written in the arrangement it has. -/
def written (manifest : Manifest) : Bytes := manifest.toValue.writeTabbed ++ [Json.ascii '\n']

/-- A written manifest is read back as its value. -/
theorem parse?_written (manifest : Manifest) :
    Value.parse? manifest.written = some manifest.toValue := by
  refine Value.parse?_writeAt ?_ manifest.regular_toValue
  intro byte present
  rw [List.mem_singleton.mp present]
  decide

/-- The bytes of a written manifest are well-formed. -/
theorem wellFormed_written (manifest : Manifest) : Bytes.WellFormed manifest.written := by
  have tab : Bytes.WellFormed [Json.ascii '\t'] := Bytes.wellFormed_singleton (by decide)
  have document := Value.wellFormed_writeAt tab _ manifest.regular_toValue 0
  exact document.append (Bytes.wellFormed_singleton (by decide))

/-- The bytes of a manifest are the manifest written in canonical order. -/
theorem encode_eq_written (manifest : Manifest) : manifest.encode = manifest.sort.written := rfl

end Manifest

end StableFleet
