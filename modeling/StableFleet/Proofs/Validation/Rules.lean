import StableFleet.Proofs.Version.Order
import StableFleet.Validation.Shallow

/-!
# The rules of a section, and the first that is broken

Rules stand in an order. A search decides some rules if it finds nothing when all of them
are kept, and else the fault of the first that is broken. Such searches are put together as
their rules are, so the search for the first fault of an entry, and then of a section, is
followed part by part.
-/

namespace StableFleet.Shallow

/-- A rule, with the fault that breaking it is. -/
structure Rule (φ : Type) where
  fault : φ
  kept : Prop

/-- The rule under another name of its fault. -/
def Rule.as {φ ψ : Type} (name : φ → ψ) (rule : Rule φ) : Rule ψ := ⟨name rule.fault, rule.kept⟩

section Decides

variable {φ ψ : Type} {rules others : List (Rule φ)} {rule : Rule φ} {fault : φ}
  {found later : Option φ}

/-- A fault is that of the first of some rules that is broken. -/
def FirstBroken (rules : List (Rule φ)) (fault : φ) : Prop :=
  ∃ before rule after, rules = before ++ rule :: after ∧ (∀ earlier ∈ before, earlier.kept) ∧
    ¬ rule.kept ∧ rule.fault = fault

/-- The first broken rule is the first rule, or that rule is kept and it is the first broken
one of the others. -/
theorem firstBroken_cons : FirstBroken (rule :: rules) fault ↔
    (¬ rule.kept ∧ rule.fault = fault) ∨ (rule.kept ∧ FirstBroken rules fault) := by
  constructor
  · rintro ⟨before, broken, after, split, kept, breaks, named⟩
    cases before with
    | nil =>
      obtain ⟨rfl, _⟩ := List.cons.inj split
      exact .inl ⟨breaks, named⟩
    | cons first before =>
      obtain ⟨rfl, rest⟩ := List.cons.inj split
      obtain ⟨here, kept⟩ := List.forall_mem_cons.mp kept
      exact .inr ⟨here, before, broken, after, rest, kept, breaks, named⟩
  · rintro (⟨breaks, named⟩ | ⟨here, before, broken, after, rfl, kept, breaks, named⟩)
    · exact ⟨[], rule, rules, rfl, List.forall_mem_nil _, breaks, named⟩
    · exact ⟨rule :: before, broken, after, rfl, List.forall_mem_cons.mpr ⟨here, kept⟩, breaks,
        named⟩

/-- There is one first broken rule at most. -/
theorem FirstBroken.unique {other : φ} (first : FirstBroken rules fault)
    (second : FirstBroken rules other) : fault = other := by
  induction rules with
  | nil =>
    obtain ⟨before, _, _, split, _⟩ := first
    cases before <;> cases split
  | cons rule rules inductionHypothesis =>
    rcases firstBroken_cons.mp first with ⟨breaks, rfl⟩ | ⟨here, first⟩
    · rcases firstBroken_cons.mp second with ⟨_, named⟩ | ⟨here, _⟩
      · exact named
      · exact absurd here breaks
    · rcases firstBroken_cons.mp second with ⟨breaks, _⟩ | ⟨_, second⟩
      · exact absurd here breaks
      · exact inductionHypothesis first second

/-- A search decides some rules in order: it finds nothing when all are kept, and else the
fault of the first that is broken. -/
def Decides : Option φ → List (Rule φ) → Prop
  | none, rules => ∀ rule ∈ rules, rule.kept
  | some fault, rules => FirstBroken rules fault

/-- A search that decides some rules finds nothing exactly when all are kept. -/
theorem Decides.eq_none_iff (decides : Decides found rules) :
    found = none ↔ ∀ rule ∈ rules, rule.kept := by
  cases found with
  | none => exact ⟨fun _ => decides, fun _ => rfl⟩
  | some fault =>
    obtain ⟨before, broken, after, rfl, _, breaks, _⟩ := decides
    refine ⟨nofun, fun all => absurd (all broken ?_) breaks⟩
    exact List.mem_append_right _ List.mem_cons_self

/-- A search that decides some rules finds the fault of the first that is broken. -/
theorem Decides.eq_some_iff (decides : Decides found rules) :
    found = some fault ↔ FirstBroken rules fault := by
  constructor
  · rintro rfl
    exact decides
  · intro first
    cases found with
    | none =>
      obtain ⟨before, broken, after, rfl, _, breaks, _⟩ := first
      exact absurd (decides broken (List.mem_append_right _ List.mem_cons_self)) breaks
    | some other => exact congrArg some (FirstBroken.unique decides first)

theorem Decides.nil : Decides (none : Option φ) [] := List.forall_mem_nil _

/-- A broken rule is reported, whatever comes after it. -/
theorem Decides.broken (breaks : ¬ rule.kept) : Decides (some rule.fault) (rule :: rules) :=
  firstBroken_cons.mpr (.inl ⟨breaks, rfl⟩)

/-- A rule that is kept is passed over. -/
theorem Decides.kept (here : rule.kept) (rest : Decides found rules) :
    Decides found (rule :: rules) := by
  cases found with
  | none => exact List.forall_mem_cons.mpr ⟨here, rest⟩
  | some fault => exact firstBroken_cons.mpr (.inr ⟨here, rest⟩)

/-- A check of one rule before others. -/
theorem Decides.check {breaks : Bool} {kept : Prop} (meaning : kept ↔ breaks = false)
    (rest : Decides found rules) :
    Decides (if breaks then some fault else found) (⟨fault, kept⟩ :: rules) := by
  cases breaks with
  | true => exact .broken fun here => Bool.noConfusion (meaning.mp here)
  | false => exact rest.kept (meaning.mpr rfl)

/-- One search after another decides the rules of both. -/
theorem Decides.append (first : Decides found rules) (second : Decides later others) :
    Decides (found.or later) (rules ++ others) := by
  induction rules with
  | nil =>
    cases found with
    | none => exact second
    | some fault =>
      obtain ⟨before, _, _, split, _⟩ := first
      cases before <;> cases split
  | cons rule rules inductionHypothesis =>
    cases found with
    | none =>
      obtain ⟨here, rest⟩ := List.forall_mem_cons.mp first
      exact (inductionHypothesis rest).kept here
    | some fault =>
      rcases firstBroken_cons.mp first with ⟨breaks, rfl⟩ | ⟨here, rest⟩
      · exact .broken breaks
      · exact (inductionHypothesis rest).kept here

/-- The faults may be named otherwise. -/
theorem Decides.as (name : φ → ψ) (decides : Decides found rules) :
    Decides (found.map name) (rules.map (Rule.as name)) := by
  cases found with
  | none =>
    intro rule present
    obtain ⟨source, member, rfl⟩ := List.mem_map.mp present
    exact decides source member
  | some fault =>
    obtain ⟨before, broken, after, rfl, kept, breaks, named⟩ := decides
    refine ⟨before.map (Rule.as name), broken.as name, after.map (Rule.as name), ?_, ?_, breaks,
      congrArg name named⟩
    · rw [List.map_append, List.map_cons]
    · intro earlier present
      obtain ⟨source, member, rfl⟩ := List.mem_map.mp present
      exact kept source member

/-- Searches of some items in turn decide the rules of all items. -/
theorem Decides.findSome? {ι : Type} {search : ι → Option φ} {rulesOf : ι → List (Rule φ)}
    (each : ∀ item, Decides (search item) (rulesOf item)) (items : List ι) :
    Decides (items.findSome? search) (items.flatMap rulesOf) := by
  induction items with
  | nil => exact .nil
  | cons item items inductionHypothesis =>
    have first : (item :: items).findSome? search = (search item).or (items.findSome? search) := by
      rw [List.findSome?_cons]
      cases search item <;> rfl
    rw [first, List.flatMap_cons]
    exact (each item).append inductionHypothesis

end Decides

/-- The rule about the model of an entry. Under the strict option an operating-system entry
has none; other entries have one. -/
def modelRule (strict : Bool) (part : Section) (model : String) : Rule EntryFault :=
  match part with
  | .cros => ⟨.modelGiven, strict = true → model = ""⟩
  | .firmware | .faft => ⟨.emptyModel, model ≠ ""⟩

/-- What the version of an entry has to be in a section. -/
def VersionAccepted (part : Section) (version : String) : Prop :=
  match part with
  | .cros => Version.Accepts Version.readOs version
  | .firmware | .faft => Version.checkFirmwareLike version = .ok ()

/-- The rules of an entry that comes after others of its section. -/
def entryRules (strict : Bool) (part : Section) (earlier : List VersionEntry)
    (entry : VersionEntry) : List (Rule EntryFault) := [
  ⟨.capitals, Text.LetterCase.isLowercase entry.key.buildTarget = true ∧
    Text.LetterCase.isLowercase entry.key.model = true⟩,
  ⟨.emptyBuildTarget, entry.key.buildTarget ≠ ""⟩,
  modelRule strict part entry.key.model,
  ⟨.duplicate, ∀ other ∈ earlier, other.key.composite ≠ entry.key.composite⟩,
  ⟨.version, VersionAccepted part entry.version⟩]

/-- The rules of the entries of a section, by their position. -/
def sectionRules (strict : Bool) (part : Section) (entries : List VersionEntry) :
    List (Rule Fault) :=
  entries.zipIdx.flatMap fun (entry, index) =>
    (entryRules strict part (entries.take index) entry).map
      (Rule.as (Fault.entry part index entry))

section Entries

variable {strict : Bool} {part : Section}

theorem isVersionOf_iff {version : String} :
    isVersionOf part version = true ↔ VersionAccepted part version := by
  have like : Version.looksLikeFirmware version = true ↔
      Version.checkFirmwareLike version = .ok () := by
    unfold Version.checkFirmwareLike
    cases Version.looksLikeFirmware version <;> simp
  cases part with
  | firmware => exact like
  | faft => exact like
  | cros =>
    refine Option.isSome_iff_exists.trans (exists_congr fun found => ?_)
    rw [OsVersion.parse?_eq_some_iff, Version.readOs_eq_ok_iff]

/-- The fault of a model decides the rule about it. -/
theorem decides_modelFault (strict : Bool) (part : Section) (model : String) :
    Decides (modelFault? strict part model) [modelRule strict part model] := by
  have given : model.isEmpty = false ↔ model ≠ "" := by simp
  cases part with
  | cros =>
    refine .check ?_ .nil
    cases strict <;> simp
  | firmware => exact .check given.symm .nil
  | faft => exact .check given.symm .nil

/-- The fault of an entry decides its rules, if the names seen are those of the entries
before it. -/
theorem decides_entryFault {earlier : List VersionEntry} {seen : List String}
    (known : ∀ name, name ∈ seen ↔ ∃ other ∈ earlier, other.key.composite = name)
    (entry : VersionEntry) :
    Decides (entryFault? strict part seen entry) (entryRules strict part earlier entry) := by
  have version : Decides (if isVersionOf part entry.version then none else some .version)
      [(⟨.version, VersionAccepted part entry.version⟩ : Rule EntryFault)] := by
    by_cases accepted : isVersionOf part entry.version = true
    · rw [if_pos accepted]
      exact .kept (isVersionOf_iff.mp accepted) .nil
    · rw [if_neg accepted]
      exact .broken (accepted ∘ isVersionOf_iff.mpr)
  unfold entryFault? entryRules
  refine .check ?_ (.check ?_ ?_)
  · simp
  · simp
  · refine (decides_modelFault strict part entry.key.model).append (.check ?_ version)
    simpa using (not_congr (known entry.key.composite)).symm

/-- The faults of entries decide their rules. The induction goes along the entries; each
comes after one more. -/
theorem decides_entriesFault (earlier : List VersionEntry) {seen : List String}
    (known : ∀ name, name ∈ seen ↔ ∃ other ∈ earlier, other.key.composite = name)
    (entries : List VersionEntry) :
    Decides (entriesFault? strict part earlier.length seen entries)
      ((entries.zipIdx earlier.length).flatMap fun (entry, index) =>
        (entryRules strict part ((earlier ++ entries).take index) entry).map
          (Rule.as (Fault.entry part index entry))) := by
  induction entries generalizing earlier seen with
  | nil => exact .nil
  | cons entry entries inductionHypothesis =>
    have first : entriesFault? strict part earlier.length seen (entry :: entries) =
        ((entryFault? strict part seen entry).map (Fault.entry part earlier.length entry)).or
          (entriesFault? strict part (earlier.length + 1) (entry.key.composite :: seen)
            entries) := by
      rw [entriesFault?]
      cases entryFault? strict part seen entry <;> rfl
    rw [first, List.zipIdx_cons, List.flatMap_cons]
    refine .append ?_ ?_
    · dsimp only
      rw [List.take_left]
      exact (decides_entryFault known entry).as _
    · have more : ∀ name, name ∈ entry.key.composite :: seen ↔
          ∃ other ∈ earlier ++ [entry], other.key.composite = name := by
        intro name
        rw [List.mem_cons, known]
        simp [or_and_right, exists_or, or_comm, eq_comm]
      have later := inductionHypothesis (earlier ++ [entry]) more
      rw [List.length_append, List.append_assoc] at later
      exact later

/-- The fault of a section decides the rules of its entries. -/
theorem decides_sectionFault (strict : Bool) (manifest : Manifest) (part : Section) :
    Decides (sectionFault? strict manifest part)
      (sectionRules strict part (manifest.entries part)) :=
  decides_entriesFault [] (by simp) (manifest.entries part)

end Entries

end StableFleet.Shallow
