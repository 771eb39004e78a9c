import StableFleet.Proofs.Validation.Soundness
import StableFleet.Proofs.Validation.Trace

/-!
# Entries that are backed by a record

A reader backs a key of a manifest when it has kept the record of the version that the
manifest has for the key, and that record has the firmware that the manifest has for it.
In a manifest with distinct keys whose names tell them apart, such entries need no
download to be checked, and nothing but a capital letter can be reported of them. So a
report blames boards, devices and firmware on other entries only. This holds whatever
the archive has become since the records were kept.
-/

namespace StableFleet.Deep

variable {σ : Type} {host : Host σ} {session left : Session σ} {progress next : Progress}

/-- The reader has kept the record of the version that a manifest has for a key, and the
record has the firmware that the manifest has for it. -/
def Backed (reader : ArchiveReader) (manifest : Manifest) (key : EntryKey) : Prop :=
  ∃ version record, ⟨key, version⟩ ∈ manifest.cros ∧
    reader.cache.get? key.buildTarget version = some record ∧
    ∀ firmware, ⟨key, firmware⟩ ∈ manifest.firmware → record.get? key.model = some firmware

/-- What a report says of a manifest, apart from names with capital letters, is said of
entries that may be blamed: the boards without a record are those of some of the
operating-system entries, in order, and the devices that were not found, as well as the
firmware that is not the archive's, are those of some of the firmware entries. -/
structure Blames (manifest : Manifest) (os firmware : VersionEntry → Prop) (report : Report) :
    Prop where
  missing : ∃ blamed : List VersionEntry, blamed.Sublist manifest.cros ∧
    (∀ entry ∈ blamed, os entry) ∧ report.missingBoards = blamed.map (·.key.buildTarget)
  failed : ∃ blamed : List VersionEntry, blamed.Sublist manifest.firmware ∧
    (∀ entry ∈ blamed, firmware entry) ∧
    report.failedLookups = blamed.map fun entry => ⟨entry.key.buildTarget, entry.key.model⟩
  mismatched : ∃ blamed : List VersionEntry, blamed.Sublist manifest.firmware ∧
    (∀ entry ∈ blamed, firmware entry) ∧
    (report.mismatches.map fun mismatch => (mismatch.device, mismatch.got)) =
      blamed.map fun entry => (⟨entry.key.buildTarget, entry.key.model⟩, entry.version)

/-- More entries may be blamed. -/
theorem Blames.mono {manifest : Manifest} {os firmware os' firmware' : VersionEntry → Prop}
    {report : Report} (blames : Blames manifest os firmware report)
    (wider : ∀ entry ∈ manifest.cros, os entry → os' entry)
    (wider' : ∀ entry ∈ manifest.firmware, firmware entry → firmware' entry) :
    Blames manifest os' firmware' report := by
  obtain ⟨⟨first, ofCros, all, missing⟩, ⟨second, ofFirmware, all', failed⟩,
    ⟨third, ofFirmware', all'', mismatched⟩⟩ := blames
  constructor
  · exact ⟨first, ofCros, fun entry member => wider entry (ofCros.subset member)
      (all entry member), missing⟩
  · exact ⟨second, ofFirmware, fun entry member => wider' entry (ofFirmware.subset member)
      (all' entry member), failed⟩
  · exact ⟨third, ofFirmware', fun entry member => wider' entry (ofFirmware'.subset member)
      (all'' entry member), mismatched⟩

/-- When the check of each of some entries adds to a list what stands for the entry, or
nothing, a check of the entries in turn adds what stands for some of them, in order. -/
theorem checkAll_adds {α : Type} {check : Progress → VersionEntry → Reading Progress}
    (holds : Progress → Session σ → Prop) (listed : Progress → List α) (item : VersionEntry → α)
    (blamed : VersionEntry → Prop) {entries : List VersionEntry}
    (each : ∀ entry ∈ entries, ∀ {before after : Progress} {first last : Session σ},
      holds before first → (check before entry).perform host first = (.ok after, last) →
      holds after last ∧ (listed after = listed before ∨
        blamed entry ∧ listed after = listed before ++ [item entry]))
    (start : holds progress session)
    (checked : (checkAll check progress entries).perform host session = (.ok next, left)) :
    ∃ added : List VersionEntry, added.Sublist entries ∧ (∀ entry ∈ added, blamed entry) ∧
      listed next = listed progress ++ added.map item := by
  induction entries generalizing progress session with
  | nil =>
    cases checked
    exact ⟨[], List.Sublist.refl _, nofun, (List.append_nil _).symm⟩
  | cons entry entries inductionHypothesis =>
    obtain ⟨middle, between, here, others⟩ := Reading.bind_ok checked
    obtain ⟨goesOn, step⟩ := each entry List.mem_cons_self start here
    obtain ⟨added, within, all, later⟩ := inductionHypothesis
      (fun other member => each other (List.mem_cons_of_mem _ member)) goesOn others
    rcases step with same | ⟨blame, more⟩
    · exact ⟨added, within.cons _, all, by rw [later, same]⟩
    · refine ⟨entry :: added, within.cons_cons _, ?_, ?_⟩
      · intro other member
        rcases List.mem_cons.mp member with rfl | member
        · exact blame
        · exact all other member
      · rw [later, more, List.append_assoc]
        rfl

section Checks

variable {entry : VersionEntry}

/-- A check of an operating-system entry whose record is kept asks only whether to
stop. -/
theorem silent_checkOs {record : ModelFirmware}
    (kept : session.reader.cache.get? entry.key.buildTarget entry.version = some record) :
    ∀ exchange ∈ (checkOs progress entry).exchanges host session,
      exchange.request = .stopped := by
  intro exchange present
  unfold checkOs at present
  cases offending : offendingName? entry.key with
  | some name =>
    rw [offending] at present
    cases present
  | none =>
    rw [offending] at present
    dsimp only at present
    rw [Reading.exchanges_bind, Reading.exchanges_unlessStopped,
      (ArchiveReader.lookup_of_kept kept).1] at present
    rcases List.mem_append.mp present with asked | noted
    · rw [List.mem_singleton.mp asked]
    · split at noted
      · next answer _ _ => cases answer <;> cases noted
      · cases noted

/-- A check of a firmware entry asks only whether to stop, if the record of the version
that was found for the entry is kept. -/
theorem silent_checkFirmware
    (kept : ∀ version, progress.found.get? (deviceName entry.key) = some version →
      ∃ record, session.reader.cache.get? entry.key.buildTarget version = some record) :
    ∀ exchange ∈ (checkFirmware progress entry).exchanges host session,
      exchange.request = .stopped := by
  intro exchange present
  unfold checkFirmware at present
  dsimp only at present
  split at present
  · cases present
  · cases found : progress.found.get? (deviceName entry.key) with
    | none =>
      rw [found] at present
      cases present
    | some version =>
      obtain ⟨record, held⟩ := kept version found
      rw [found] at present
      dsimp only at present
      rw [Reading.exchanges_bind, Reading.exchanges_unlessStopped,
        ArchiveReader.exchanges_firmwareVersion, (ArchiveReader.lookup_of_kept held).1] at present
      rcases List.mem_append.mp present with asked | noted
      · rw [List.mem_singleton.mp asked]
      · split at noted
        · next answer _ _ =>
          cases answer with
          | error error => cases noted
          | ok firmware =>
            dsimp only at noted
            split at noted <;> cases noted
        · cases noted

/-- A check of an operating-system entry whose record is kept notes a name with a capital
letter, or finds the version of the entry. -/
theorem checkOs_of_kept {record : ModelFirmware}
    (kept : session.reader.cache.get? entry.key.buildTarget entry.version = some record)
    (checked : (checkOs progress entry).perform host session = (.ok next, left)) :
    (∃ name, offendingName? entry.key = some name ∧ next = progress.noteCapitals name) ∨
      next = progress.noteFound entry.key entry.version := by
  rcases checkOs_ok checked with ⟨name, offending, rfl, _⟩ | ⟨_, answer, looked, untold, rfl⟩
  · exact .inl ⟨name, offending, rfl⟩
  · refine .inr ?_
    rcases (ArchiveReader.lookup_of_kept kept).2 with told | found
    · rw [looked] at told
      exact absurd (congrArg Prod.fst told) untold
    · rw [looked] at found
      cases found
      rfl

/-- A check of a firmware entry adds nothing to the lists of devices and firmware, or the
device or the firmware of the entry to one of them. -/
theorem checkFirmware_adds
    (checked : (checkFirmware progress entry).perform host session = (.ok next, left)) :
    next.report.missingBoards = progress.report.missingBoards ∧
      (next.report.failedLookups = progress.report.failedLookups ∨
        next.report.failedLookups = progress.report.failedLookups ++
          [⟨entry.key.buildTarget, entry.key.model⟩]) ∧
      (next.report.mismatches = progress.report.mismatches ∨
        ∃ wanted, next.report.mismatches = progress.report.mismatches ++
          [⟨⟨entry.key.buildTarget, entry.key.model⟩, wanted, entry.version⟩]) := by
  rcases checkFirmware_ok checked with
    ⟨_, _, rfl⟩ | ⟨_, _, _, rfl⟩ | ⟨_, version, answer, _, _, _, rfl⟩
  · exact ⟨rfl, .inl rfl, .inl rfl⟩
  · exact ⟨rfl, .inr rfl, .inl rfl⟩
  · cases answer with
    | error error => exact ⟨rfl, .inr rfl, .inl rfl⟩
    | ok firmware =>
      rw [Progress.noteFirmware]
      split
      · exact ⟨rfl, .inl rfl, .inl rfl⟩
      · exact ⟨rfl, .inl rfl, .inr ⟨firmware, rfl⟩⟩

/-- A check of a firmware entry adds nothing to these lists when the version that was
found for the entry has a kept record with the firmware of the entry. -/
theorem checkFirmware_of_kept {version : String} {record : ModelFirmware}
    (found : offendingName? entry.key = none →
      progress.found.get? (deviceName entry.key) = some version)
    (kept : session.reader.cache.get? entry.key.buildTarget version = some record)
    (has : record.get? entry.key.model = some entry.version)
    (checked : (checkFirmware progress entry).perform host session = (.ok next, left)) :
    next.report.failedLookups = progress.report.failedLookups ∧
      next.report.mismatches = progress.report.mismatches := by
  rcases checkFirmware_ok checked with
    ⟨_, _, rfl⟩ | ⟨lowercase, unknown, _, _⟩ |
      ⟨lowercase, other, answer, known, looked, untold, rfl⟩
  · exact ⟨rfl, rfl⟩
  · cases (found lowercase).symm.trans unknown
  · cases (found lowercase).symm.trans known
    rw [ArchiveReader.perform_firmwareVersion] at looked
    rcases (ArchiveReader.lookup_of_kept kept).2 with told | finds
    · rw [told] at looked
      cases looked
      exact absurd rfl untold
    · rw [finds] at looked
      simp only [Except.bind, has, Option.elim] at looked
      cases looked
      rw [Progress.noteFirmware, if_pos rfl]
      exact ⟨rfl, rfl⟩

end Checks

section Manifest

variable {manifest : Manifest} {reader : ArchiveReader}

/-- A backed entry of a manifest with distinct keys has the version whose record is
kept. -/
theorem Backed.record (distinct : (manifest.cros.map (·.key)).Nodup) {entry : VersionEntry}
    (present : entry ∈ manifest.cros) (backed : Backed reader manifest entry.key) :
    ∃ record, reader.cache.get? entry.key.buildTarget entry.version = some record ∧
      ∀ firmware, ⟨entry.key, firmware⟩ ∈ manifest.firmware →
        record.get? entry.key.model = some firmware := by
  obtain ⟨version, record, listed, kept, has⟩ := backed
  have same := VersionEntry.eq_of_key_eq distinct present listed rfl
  rw [same]
  exact ⟨record, kept, has⟩

/-- What a check of operating-system entries keeps up, besides that the session goes on:
a version of the manifest that was found for its own name stays found, and nothing is
said of the firmware. -/
structure OsKeeps (manifest : Manifest) (before after : Progress) : Prop where
  found : ∀ entry ∈ manifest.cros,
    before.found.get? (deviceName entry.key) = some entry.version →
    after.found.get? (deviceName entry.key) = some entry.version
  failed : after.report.failedLookups = before.report.failedLookups
  mismatched : after.report.mismatches = before.report.mismatches

theorem OsKeeps.refl (manifest : Manifest) (progress : Progress) :
    OsKeeps manifest progress progress :=
  ⟨fun _ _ => id, rfl, rfl⟩

theorem OsKeeps.trans {first second third : Progress} (before : OsKeeps manifest first second)
    (after : OsKeeps manifest second third) : OsKeeps manifest first third :=
  ⟨fun entry member found => after.found entry member (before.found entry member found),
    after.failed.trans before.failed, after.mismatched.trans before.mismatched⟩

variable (distinct : (manifest.cros.map (·.key)).Nodup)

include distinct

/-- The boards without a record, after a check of the operating-system entries, are those
of entries that are not backed. -/
theorem missing_of_checkOs (continues : reader.Continues session.reader)
    (checked : (checkAll checkOs progress manifest.cros).perform host session = (.ok next, left)) :
    ∃ blamed : List VersionEntry, blamed.Sublist manifest.cros ∧
      (∀ entry ∈ blamed, ¬ Backed reader manifest entry.key) ∧
      next.report.missingBoards =
        progress.report.missingBoards ++ blamed.map (·.key.buildTarget) := by
  refine checkAll_adds (fun _ session => reader.Continues session.reader)
    (fun progress => progress.report.missingBoards) (·.key.buildTarget)
    (fun entry => ¬ Backed reader manifest entry.key) ?_ continues checked
  intro entry present before after first last continues checked
  refine ⟨continues.trans (goesOn_checkOs checked).continues, ?_⟩
  by_cases backed : Backed reader manifest entry.key
  · obtain ⟨record, kept, _⟩ := backed.record distinct present
    rcases checkOs_of_kept (continues.keeps kept) checked with ⟨name, _, rfl⟩ | rfl
    · exact .inl rfl
    · exact .inl rfl
  · rcases checkOs_ok checked with ⟨name, _, rfl, _⟩ | ⟨_, answer, _, _, rfl⟩
    · exact .inl rfl
    · cases answer with
      | ok record => exact .inl rfl
      | error error => exact .inr ⟨backed, rfl⟩

variable (plain : ∀ entry ∈ manifest.cros, ';' ∉ entry.key.buildTarget.toList)

include plain

/-- Operating-system entries are told apart by their names. -/
theorem eq_of_names {left right : VersionEntry} (present : left ∈ manifest.cros)
    (present' : right ∈ manifest.cros) (same : deviceName left.key = deviceName right.key) :
    left = right :=
  VersionEntry.eq_of_key_eq distinct present present'
    (eq_of_deviceName_eq (plain left present) (plain right present') same)

theorem osKeeps_checkOs {entry : VersionEntry} (present : entry ∈ manifest.cros)
    (checked : (checkOs progress entry).perform host session = (.ok next, left)) :
    OsKeeps manifest progress next := by
  rcases checkOs_ok checked with ⟨name, _, rfl, _⟩ | ⟨_, answer, _, _, rfl⟩
  · exact ⟨fun _ _ => id, rfl, rfl⟩
  · cases answer with
    | error error => exact ⟨fun _ _ => id, rfl, rfl⟩
    | ok record =>
      refine ⟨fun other member found => ?_, rfl, rfl⟩
      refine (Table.get?_insert ..).trans ?_
      split
      · next same => rw [eq_of_names distinct plain member present same]
      · exact found

/-- The version of a backed entry without a capital letter is found in the check of the
operating-system entries. -/
theorem found_of_backed (continues : reader.Continues session.reader)
    (checked : (checkAll checkOs progress manifest.cros).perform host session = (.ok next, left))
    {entry : VersionEntry} (present : entry ∈ manifest.cros)
    (backed : Backed reader manifest entry.key) (lowercase : offendingName? entry.key = none) :
    next.found.get? (deviceName entry.key) = some entry.version := by
  obtain ⟨record, kept, _⟩ := backed.record distinct present
  obtain ⟨_, steps⟩ := checkAll_steps
    (fun before after =>
      before.2.GoesOn host after.2 ∧ OsKeeps manifest before.1 after.1)
    (fun _ => ⟨.refl _, .refl _ _⟩)
    (fun before after => ⟨before.1.trans after.1, before.2.trans after.2⟩)
    (fun entry member {_ _ _ _} checked =>
      ⟨goesOn_checkOs checked, osKeeps_checkOs distinct plain member checked⟩) checked
  obtain ⟨before, first, after, last, here, ⟨reaches, _⟩, ⟨_, keeps⟩⟩ := steps entry present
  have held := reaches.continues.keeps (continues.keeps kept)
  refine keeps.found entry present ?_
  rcases checkOs_of_kept held here with ⟨name, offending, _⟩ | rfl
  · rw [lowercase] at offending
    cases offending
  · exact (Table.get?_insert ..).trans (if_pos rfl)

/-- No download is made to check a backed entry. -/
theorem silent_of_backed {run : Run σ} {entry : VersionEntry} {exchanges : List Exchange}
    (traced : (entry, exchanges) ∈ trace host manifest ⟨reader, run⟩)
    (backed : Backed reader manifest entry.key) :
    ∀ exchange ∈ exchanges, exchange.request = .stopped := by
  rcases List.mem_append.mp traced with inOs | inFirmware
  · obtain ⟨present, before, first, reaches, rfl⟩ := mem_traceAll
      (fun before after => before.2.GoesOn host after.2)
      (fun _ => .refl _) (fun before after => before.trans after)
      (fun _ _ {_ _ _ _} checked => goesOn_checkOs checked) inOs
    obtain ⟨record, kept, _⟩ := backed.record distinct present
    exact silent_checkOs (reaches.continues.keeps kept)
  · cases os : (checkAll checkOs {} manifest.cros).perform host ⟨reader, run⟩ with
    | mk answer middle =>
      rw [os] at inFirmware
      cases answer with
      | error error => cases inFirmware
      | ok progress =>
        obtain ⟨goesOn, finds⟩ := found_checkOs os
        obtain ⟨_, before, first, ⟨reaches, same⟩, rfl⟩ := mem_traceAll
          (fun before after =>
            before.2.GoesOn host after.2 ∧ after.1.found = before.1.found)
          (fun _ => ⟨.refl _, rfl⟩)
          (fun before after => ⟨before.1.trans after.1, after.2.trans before.2⟩)
          (fun _ _ {_ _ _ _} checked =>
            ⟨(checkFirmware_keeps checked).1, (checkFirmware_keeps checked).2.1⟩) inFirmware
        refine silent_checkFirmware fun version found => ?_
        rw [show before.found = progress.found from same] at found
        obtain ⟨chosen, record, listed, kept, _⟩ := backed
        rcases finds found with contradiction | ⟨source, member, named, rfl⟩
        · cases contradiction
        · -- The version that was found is that of the backed operating-system entry.
          cases eq_of_names distinct plain member listed named
          exact ⟨record, reaches.continues.keeps (goesOn.continues.keeps kept)⟩

/-- What the checks of the operating-system entries keep up together. -/
theorem osKeeps_checkAll
    (checked : (checkAll checkOs progress manifest.cros).perform host session = (.ok next, left)) :
    OsKeeps manifest progress next :=
  (checkAll_steps (fun before after => OsKeeps manifest before.1 after.1)
    (fun _ => .refl _ _) (fun before after => before.trans after)
    (fun _ member {_ _ _ _} checked => osKeeps_checkOs distinct plain member checked) checked).1

end Manifest

section Firmware

variable {manifest : Manifest} {reader : ArchiveReader} {start : Session σ} {found : Progress}

/-- What the check of a firmware entry can rely on once the operating-system entries have
been checked: the reader has lost no record, and the versions are those that were found. -/
structure Ready (reader : ArchiveReader) (found progress : Progress) (session : Session σ) :
    Prop where
  continues : reader.Continues session.reader
  finds : progress.found = found.found

/-- The next check of a firmware entry can rely on the same. -/
theorem Ready.step {entry : VersionEntry} (ready : Ready reader found progress session)
    (checked : (checkFirmware progress entry).perform host session = (.ok next, left)) :
    Ready reader found next left :=
  ⟨ready.continues.trans (goesOn_checkFirmware checked).continues,
    (checkFirmware_keeps checked).2.1.trans ready.finds⟩

/-- The check of the firmware entries says nothing of boards. -/
theorem missing_of_checkFirmware {entries : List VersionEntry}
    (checked : (checkAll checkFirmware progress entries).perform host session =
      (.ok next, left)) :
    next.report.missingBoards = progress.report.missingBoards :=
  (checkAll_steps (fun before after => after.1.report.missingBoards = before.1.report.missingBoards)
    (fun _ => rfl) (fun before after => after.trans before)
    (fun _ _ {_ _ _ _} checked => (checkFirmware_adds checked).1) checked).1

variable (distinct : (manifest.cros.map (·.key)).Nodup)
  (plain : ∀ entry ∈ manifest.cros, ';' ∉ entry.key.buildTarget.toList)
  (continues : reader.Continues start.reader)
  (os : (checkAll checkOs {} manifest.cros).perform host start = (.ok found, session))

include distinct plain continues os

/-- A firmware entry that is backed adds nothing to the lists of devices and firmware,
once the operating-system entries have been checked. -/
theorem checkFirmware_of_backed {entry : VersionEntry} (present : entry ∈ manifest.firmware)
    (backed : Backed reader manifest entry.key) {first last : Session σ}
    (ready : Ready reader found progress first)
    (checked : (checkFirmware progress entry).perform host first = (.ok next, last)) :
    next.report.failedLookups = progress.report.failedLookups ∧
      next.report.mismatches = progress.report.mismatches := by
  obtain ⟨version, record, listed, kept, has⟩ := backed
  have known (lowercase : offendingName? entry.key = none) :
      progress.found.get? (deviceName entry.key) = some version := by
    rw [ready.finds]
    exact found_of_backed distinct plain continues os listed ⟨version, record, listed, kept, has⟩
      lowercase
  exact checkFirmware_of_kept known (ready.continues.keeps kept) (has _ present) checked

/-- The devices that were not found, after a check of the firmware entries, are those of
entries that are not backed. -/
theorem failed_of_checkFirmware (ready : Ready reader found progress session)
    (checked : (checkAll checkFirmware progress manifest.firmware).perform host session =
      (.ok next, left)) :
    ∃ blamed : List VersionEntry, blamed.Sublist manifest.firmware ∧
      (∀ entry ∈ blamed, ¬ Backed reader manifest entry.key) ∧
      next.report.failedLookups = progress.report.failedLookups ++
        blamed.map fun entry => ⟨entry.key.buildTarget, entry.key.model⟩ := by
  refine checkAll_adds (Ready reader found) (fun progress => progress.report.failedLookups)
    (fun entry => ⟨entry.key.buildTarget, entry.key.model⟩)
    (fun entry => ¬ Backed reader manifest entry.key) ?_ ready checked
  intro entry present before after first last ready checked
  refine ⟨ready.step checked, ?_⟩
  by_cases backed : Backed reader manifest entry.key
  · exact .inl (checkFirmware_of_backed distinct plain continues os present backed ready checked).1
  · exact (checkFirmware_adds checked).2.1.imp id fun more => ⟨backed, more⟩

/-- The firmware that is not the archive's, after a check of the firmware entries, is that
of entries that are not backed. -/
theorem mismatched_of_checkFirmware (ready : Ready reader found progress session)
    (checked : (checkAll checkFirmware progress manifest.firmware).perform host session =
      (.ok next, left)) :
    ∃ blamed : List VersionEntry, blamed.Sublist manifest.firmware ∧
      (∀ entry ∈ blamed, ¬ Backed reader manifest entry.key) ∧
      (next.report.mismatches.map fun mismatch => (mismatch.device, mismatch.got)) =
        (progress.report.mismatches.map fun mismatch => (mismatch.device, mismatch.got)) ++
          blamed.map fun entry => (⟨entry.key.buildTarget, entry.key.model⟩, entry.version) := by
  refine checkAll_adds (Ready reader found)
    (fun progress => progress.report.mismatches.map fun mismatch =>
      (mismatch.device, mismatch.got))
    (fun entry => (⟨entry.key.buildTarget, entry.key.model⟩, entry.version))
    (fun entry => ¬ Backed reader manifest entry.key) ?_ ready checked
  intro entry present before after first last ready checked
  refine ⟨ready.step checked, ?_⟩
  by_cases backed : Backed reader manifest entry.key
  · exact .inl (congrArg _
      (checkFirmware_of_backed distinct plain continues os present backed ready checked).2)
  · rcases (checkFirmware_adds checked).2.2 with same | ⟨wanted, more⟩
    · exact .inl (congrArg _ same)
    · refine .inr ⟨backed, ?_⟩
      rw [more, List.map_append]
      rfl

omit continues os

/-- A report on a manifest blames entries that the reader does not back. -/
theorem blames_of_validate {run : Run σ} {report : Report}
    (validated : (validate manifest).perform host ⟨reader, run⟩ = (.ok report, left)) :
    Blames manifest (fun entry => ¬ Backed reader manifest entry.key)
      (fun entry => ¬ Backed reader manifest entry.key) report := by
  obtain ⟨middle, between, os, validated⟩ := Reading.bind_ok validated
  obtain ⟨final, last, firmware, reported⟩ := Reading.bind_ok validated
  cases reported
  have start : reader.Continues (Session.mk reader run).reader := .refl reader
  have ready : Ready reader middle middle between := ⟨(found_checkOs os).1.continues, rfl⟩
  have kept := osKeeps_checkAll distinct plain os
  constructor
  case missing =>
    obtain ⟨blamed, within, all, missing⟩ := missing_of_checkOs distinct start os
    exact ⟨blamed, within, all, (missing_of_checkFirmware firmware).trans missing⟩
  case failed =>
    have adds := failed_of_checkFirmware distinct plain start os ready firmware
    rw [show middle.report.failedLookups = [] from kept.failed] at adds
    exact adds
  case mismatched =>
    have adds := mismatched_of_checkFirmware distinct plain start os ready firmware
    rw [show middle.report.mismatches = [] from kept.mismatched] at adds
    exact adds

end Firmware

end StableFleet.Deep
