import StableFleet.Proofs.Archive.Holdings
import StableFleet.Validation.Deep

/-!
# What a check against an archive notes

A check of an entry notes one thing or nothing: a name with a capital letter, or
else what its lookup came to. This is said once for each kind of entry, with what
the check found and the session that it leaves; what a report can tell of a manifest
is derived from it.

The names noted by a check of a manifest only grow. So a report without names with
capital letters has found none at any entry.
-/

namespace StableFleet.Deep

variable {σ : Type} {host : Host σ} {session left : Session σ} {progress next : Progress}

/-- A check of an operating-system entry that is not told to stop notes a name with
a capital letter, the version whose record was had, or a board without a record. -/
theorem checkOs_ok {entry : VersionEntry}
    (checked : (checkOs progress entry).perform host session = (.ok next, left)) :
    (∃ name, offendingName? entry.key = some name ∧ next = progress.noteCapitals name ∧
      left = session) ∨
    (offendingName? entry.key = none ∧ ∃ answer,
      (ArchiveReader.firmwareVersions entry.key.buildTarget entry.version).perform host session =
        (answer, left) ∧ answer ≠ .error .cancelled ∧
      next = match answer with
        | .ok _ => progress.noteFound entry.key entry.version
        | .error _ => progress.noteMissing entry.key.buildTarget) := by
  unfold checkOs at checked
  cases offending : offendingName? entry.key with
  | some name =>
    rw [offending] at checked
    cases checked
    exact .inl ⟨name, rfl, rfl, rfl⟩
  | none =>
    rw [offending] at checked
    obtain ⟨answer, middle, looked, noted⟩ := Reading.bind_ok checked
    obtain ⟨found, untold⟩ := Reading.unlessStopped_ok looked
    cases answer with
    | ok record =>
      cases noted
      exact .inr ⟨rfl, .ok record, found, untold, rfl⟩
    | error error =>
      cases noted
      exact .inr ⟨rfl, .error error, found, untold, rfl⟩

/-- What is noted of a firmware entry once the firmware of the archive is known. -/
def Progress.noteFirmware (progress : Progress) (entry : VersionEntry) :
    Except Error String → Progress
  | .error _ => progress.noteFailed ⟨entry.key.buildTarget, entry.key.model⟩
  | .ok firmware =>
    if firmware = entry.version then progress
    else progress.noteMismatch ⟨⟨entry.key.buildTarget, entry.key.model⟩, firmware, entry.version⟩

/-- A check of a firmware entry that is not told to stop notes a name with a capital
letter, a device whose version was not found, or what the lookup of its firmware at
the version that was found came to. -/
theorem checkFirmware_ok {entry : VersionEntry}
    (checked : (checkFirmware progress entry).perform host session = (.ok next, left)) :
    ((offendingName? entry.key).isSome = true ∧ left = session ∧
      next = progress.noteCapitals
        (BoardModel.allowKey ⟨entry.key.buildTarget, entry.key.model⟩)) ∨
    (offendingName? entry.key = none ∧ progress.found.get? (deviceName entry.key) = none ∧
      left = session ∧ next = progress.noteFailed ⟨entry.key.buildTarget, entry.key.model⟩) ∨
    (offendingName? entry.key = none ∧ ∃ version answer,
      progress.found.get? (deviceName entry.key) = some version ∧
      (ArchiveReader.firmwareVersion entry.key.buildTarget entry.key.model version).perform host
        session = (answer, left) ∧ answer ≠ .error .cancelled ∧
      next = progress.noteFirmware entry answer) := by
  unfold checkFirmware at checked
  dsimp only at checked
  cases offending : offendingName? entry.key with
  | some name =>
    rw [offending, Option.isSome_some, if_pos rfl] at checked
    cases checked
    exact .inl ⟨rfl, rfl, rfl⟩
  | none =>
    rw [offending, Option.isSome_none, if_neg Bool.false_ne_true] at checked
    cases known : progress.found.get? (deviceName entry.key) with
    | none =>
      rw [known] at checked
      cases checked
      exact .inr (.inl ⟨rfl, rfl, rfl, rfl⟩)
    | some version =>
      rw [known] at checked
      obtain ⟨answer, middle, looked, noted⟩ := Reading.bind_ok checked
      obtain ⟨found, untold⟩ := Reading.unlessStopped_ok looked
      have same : (next, left) = (progress.noteFirmware entry answer, middle) := by
        cases answer with
        | error error =>
          cases noted
          rfl
        | ok firmware =>
          dsimp only at noted
          by_cases agree : firmware = entry.version
          · rw [Progress.noteFirmware, if_pos agree]
            rw [if_pos agree] at noted
            cases noted
            rfl
          · rw [Progress.noteFirmware, if_neg agree]
            rw [if_neg agree] at noted
            cases noted
            rfl
      cases same
      exact .inr (.inr ⟨rfl, version, answer, rfl, found, untold, rfl⟩)

section Noted

variable (progress : Progress)

@[simp] theorem Progress.count_noteCapitals (name : String) :
    (progress.noteCapitals name).report.count = progress.report.count + 1 := by
  simp only [noteCapitals, Report.count, List.length_append, List.length_singleton]
  omega

@[simp] theorem Progress.count_noteFailed (device : BoardModel) :
    (progress.noteFailed device).report.count = progress.report.count + 1 := by
  simp only [noteFailed, Report.count, List.length_append, List.length_singleton]
  omega

@[simp] theorem Progress.count_noteMismatch (mismatch : VersionMismatch) :
    (progress.noteMismatch mismatch).report.count = progress.report.count + 1 := by
  simp only [noteMismatch, Report.count, List.length_append, List.length_singleton]
  omega

/-- What is noted of the firmware of an entry is an anomaly, unless the firmware is
that of the entry. -/
theorem Progress.count_noteFirmware (entry : VersionEntry) (answer : Except Error String) :
    (progress.noteFirmware entry answer).report.count =
      if answer.toOption = some entry.version then progress.report.count
      else progress.report.count + 1 := by
  cases answer with
  | error error => simp [noteFirmware, Except.toOption]
  | ok firmware =>
    by_cases agree : firmware = entry.version
    · simp [noteFirmware, Except.toOption, agree]
    · simp [noteFirmware, Except.toOption, agree]

/-- What is noted of firmware leaves the versions that were found. -/
@[simp] theorem Progress.found_noteFirmware (entry : VersionEntry) (answer : Except Error String) :
    (progress.noteFirmware entry answer).found = progress.found := by
  cases answer with
  | error error => rfl
  | ok firmware =>
    rw [noteFirmware]
    split
    · rfl
    · rfl

end Noted

/-- A session goes on after a check of an operating-system entry. -/
theorem goesOn_checkOs {entry : VersionEntry}
    (checked : (checkOs progress entry).perform host session = (.ok next, left)) :
    session.GoesOn host left := by
  rcases checkOs_ok checked with ⟨_, _, _, rfl⟩ | ⟨_, answer, looked, _, _⟩
  · exact .refl _
  · have goesOn := session.goesOn_lookup host entry.key.buildTarget entry.version
    rw [looked] at goesOn
    exact goesOn

/-- A session goes on after a check of a firmware entry. -/
theorem goesOn_checkFirmware {entry : VersionEntry}
    (checked : (checkFirmware progress entry).perform host session = (.ok next, left)) :
    session.GoesOn host left := by
  rcases checkFirmware_ok checked with
    ⟨_, rfl, _⟩ | ⟨_, _, rfl, _⟩ | ⟨_, version, answer, _, looked, _, _⟩
  · exact .refl _
  · exact .refl _
  · have goesOn := session.goesOn_lookup host entry.key.buildTarget version
    rw [ArchiveReader.perform_firmwareVersion] at looked
    rw [(Prod.mk.inj looked).2] at goesOn
    exact goesOn

/-- A check of entries in turn is made of the checks of single entries. What every
single check keeps up, and what is kept up over several when it is over each, is kept
up from the start to the check of any entry, and from there to the end. -/
theorem checkAll_steps {check : Progress → VersionEntry → Reading Progress}
    (related : Progress × Session σ → Progress × Session σ → Prop)
    (refl : ∀ point, related point point)
    (trans : ∀ {first second third}, related first second → related second third →
      related first third)
    {entries : List VersionEntry}
    (each : ∀ entry ∈ entries, ∀ {before after : Progress} {first last : Session σ},
      (check before entry).perform host first = (.ok after, last) →
      related (before, first) (after, last))
    (checked : (checkAll check progress entries).perform host session = (.ok next, left)) :
    related (progress, session) (next, left) ∧
      ∀ entry ∈ entries, ∃ before first after last,
        (check before entry).perform host first = (.ok after, last) ∧
        related (progress, session) (before, first) ∧ related (after, last) (next, left) := by
  induction entries generalizing progress session with
  | nil =>
    cases checked
    exact ⟨refl _, nofun⟩
  | cons entry entries inductionHypothesis =>
    obtain ⟨middle, between, here, others⟩ := Reading.bind_ok checked
    have step := each entry List.mem_cons_self here
    obtain ⟨rest, later⟩ := inductionHypothesis
      (fun other present => each other (List.mem_cons_of_mem _ present)) others
    refine ⟨trans step rest, fun other present => ?_⟩
    rcases List.mem_cons.mp present with rfl | present
    · exact ⟨progress, session, middle, between, here, refl _, rest⟩
    · obtain ⟨before, first, after, last, checks, reaches, ends⟩ := later other present
      exact ⟨before, first, after, last, checks, trans step reaches, ends⟩

/-- What has been noted of the names of some entries: every name noted before is
kept, and if none was added then no entry has a capital letter. -/
def Notes (before after : Progress) (entries : List VersionEntry) : Prop :=
  ∃ added, after.report.nonLowercase = before.report.nonLowercase ++ added ∧
    (added = [] → ∀ entry ∈ entries, offendingName? entry.key = none)

/-- A check of an operating-system entry notes the name of the entry if it has a
capital letter. -/
theorem notes_checkOs {entry : VersionEntry}
    (checked : (checkOs progress entry).perform host session = (.ok next, left)) :
    Notes progress next [entry] := by
  rcases checkOs_ok checked with ⟨name, _, rfl, _⟩ | ⟨lowercase, answer, _, _, rfl⟩
  · exact ⟨[name], rfl, nofun⟩
  · refine ⟨[], ?_, fun _ other present => ?_⟩
    · cases answer with
      | ok record => exact (List.append_nil _).symm
      | error error => exact (List.append_nil _).symm
    · rw [List.mem_singleton.mp present]
      exact lowercase

/-- A check of a firmware entry notes the name of the entry if it has a capital
letter. -/
theorem notes_checkFirmware {entry : VersionEntry}
    (checked : (checkFirmware progress entry).perform host session = (.ok next, left)) :
    Notes progress next [entry] := by
  have one (lowercase : offendingName? entry.key = none) (_ : ([] : List String) = []) :
      ∀ other ∈ [entry], offendingName? other.key = none := by
    intro other present
    rw [List.mem_singleton.mp present]
    exact lowercase
  rcases checkFirmware_ok checked with
    ⟨_, _, rfl⟩ | ⟨lowercase, _, _, rfl⟩ | ⟨lowercase, _, answer, _, _, _, rfl⟩
  · exact ⟨[_], rfl, nofun⟩
  · exact ⟨[], (List.append_nil _).symm, one lowercase⟩
  · refine ⟨[], ?_, one lowercase⟩
    cases answer with
    | error error => exact (List.append_nil _).symm
    | ok firmware =>
      by_cases agree : firmware = entry.version
      · rw [Progress.noteFirmware, if_pos agree, List.append_nil]
      · rw [Progress.noteFirmware, if_neg agree, List.append_nil]
        rfl

/-- A check of entries in turn notes the names of all of them. -/
theorem notes_checkAll {check : Progress → VersionEntry → Reading Progress}
    (each : ∀ {before after : Progress} {first last : Session σ} {entry : VersionEntry},
      (check before entry).perform host first = (.ok after, last) → Notes before after [entry])
    {entries : List VersionEntry}
    (checked : (checkAll check progress entries).perform host session = (.ok next, left)) :
    Notes progress next entries := by
  induction entries generalizing progress session with
  | nil =>
    cases checked
    exact ⟨[], (List.append_nil _).symm, fun _ _ => nofun⟩
  | cons entry entries inductionHypothesis =>
    obtain ⟨middle, between, first, others⟩ := Reading.bind_ok checked
    obtain ⟨added, noted, ofFirst⟩ := each first
    obtain ⟨more, later, ofOthers⟩ := inductionHypothesis others
    refine ⟨added ++ more, by rw [later, noted, List.append_assoc], ?_⟩
    intro nothing other present
    obtain ⟨noneAdded, noMore⟩ := List.append_eq_nil_iff.mp nothing
    rcases List.mem_cons.mp present with rfl | present
    · exact ofFirst noneAdded other List.mem_cons_self
    · exact ofOthers noMore other present

/-- A key without an offending name is in small letters. -/
theorem lowercase_of_offendingName? {key : EntryKey} (none : offendingName? key = none) :
    Text.LetterCase.isLowercase key.buildTarget = true ∧
      Text.LetterCase.isLowercase key.model = true := by
  unfold offendingName? at none
  cases target : Text.LetterCase.isLowercase key.buildTarget with
  | false => simp [target] at none
  | true =>
    cases model : Text.LetterCase.isLowercase key.model with
    | false => simp [target, model] at none
    | true => exact ⟨rfl, rfl⟩

/-- When the report on a manifest has no name with a capital letter, the
operating-system entries and the firmware entries are in small letters. -/
theorem lowercase_of_validate {manifest : Manifest} {report : Report}
    (validated : (validate manifest).perform host session = (.ok report, left))
    (clean : report.nonLowercase = []) :
    ∀ entry ∈ manifest.cros ++ manifest.firmware,
      Text.LetterCase.isLowercase entry.key.buildTarget = true ∧
        Text.LetterCase.isLowercase entry.key.model = true := by
  obtain ⟨middle, between, os, validated⟩ := Reading.bind_ok validated
  obtain ⟨final, last, firmware, reported⟩ := Reading.bind_ok validated
  cases reported
  obtain ⟨added, noted, ofOs⟩ := notes_checkAll notes_checkOs os
  obtain ⟨more, later, ofFirmware⟩ := notes_checkAll notes_checkFirmware firmware
  rw [later, noted] at clean
  obtain ⟨kept, noMore⟩ := List.append_eq_nil_iff.mp clean
  obtain ⟨_, noneAdded⟩ := List.append_eq_nil_iff.mp kept
  intro entry present
  rcases List.mem_append.mp present with inOs | inFirmware
  · exact lowercase_of_offendingName? (ofOs noneAdded entry inOs)
  · exact lowercase_of_offendingName? (ofFirmware noMore entry inFirmware)

end StableFleet.Deep
