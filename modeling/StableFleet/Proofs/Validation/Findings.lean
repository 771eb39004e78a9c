import StableFleet.Proofs.Archive.Transparency
import StableFleet.Proofs.Validation.Soundness

/-!
# The whole report on a manifest

In an archive that stays as it is, the check of a manifest comes to a report whatever the
manifest is, and each list of the report is told from the manifest and the archive: which
entries are listed, how often and in which order.

A check of an entry adds one item to one list, or nothing. What it adds to a list depends
on the entry and the archive alone, but for the versions that were found for devices; these
are settled before the first firmware entry is checked.
-/

namespace StableFleet.Deep

/-- The first name of a key that is not in small letters, the build target before the
model. -/
def capital? (key : EntryKey) : Option String :=
  [key.buildTarget, key.model].find? fun name => !Text.LetterCase.isLowercase name

/-- Whether both names of a key are in small letters. -/
def lowercase (key : EntryKey) : Bool :=
  Text.LetterCase.isLowercase key.buildTarget && Text.LetterCase.isLowercase key.model

/-- The device that a key is about. -/
def deviceOf (key : EntryKey) : BoardModel := ⟨key.buildTarget, key.model⟩

section Expected

variable (reader : ArchiveReader) (holdings : Holdings) (manifest : Manifest)
  (entry : VersionEntry)

/-- Whether the archive has the record of the build of an entry. -/
def available : Bool :=
  (reader.recordIn holdings entry.key.buildTarget entry.version).toOption.isSome

/-- The version by which a firmware entry is judged: that of the last operating-system
entry of its name that is in small letters and has a record. -/
def judgedBy? : Option String :=
  (manifest.cros.filter fun os => lowercase os.key && available reader holdings os &&
    deviceName os.key = deviceName entry.key).getLast?.map (·.version)

/-- The firmware that the archive has for a firmware entry: that of its model in the record
of its build target at the version by which it is judged. -/
def wanted? : Option String :=
  (judgedBy? reader holdings manifest entry).bind fun version =>
    reader.firmwareIn holdings entry.key.buildTarget version entry.key.model

end Expected

/-- The mismatch of a firmware entry with firmware of the archive, if they differ. -/
def mismatch? (entry : VersionEntry) (wanted : String) : Option VersionMismatch :=
  if wanted = entry.version then none else some ⟨deviceOf entry.key, wanted, entry.version⟩

/-- What the report on a manifest lists, in order. -/
structure Reports (reader : ArchiveReader) (holdings : Holdings) (manifest : Manifest)
    (report : Report) : Prop where
  nonLowercase : report.nonLowercase = manifest.cros.filterMap (capital? ·.key) ++
    (manifest.firmware.filter (!lowercase ·.key)).map fun entry =>
      entry.key.buildTarget ++ ";" ++ entry.key.model
  missing : report.missingBoards = (manifest.cros.filter fun entry =>
    lowercase entry.key && !available reader holdings entry).map (·.key.buildTarget)
  failed : report.failedLookups = (manifest.firmware.filter fun entry =>
    lowercase entry.key && (wanted? reader holdings manifest entry).isNone).map (deviceOf ·.key)
  mismatched : report.mismatches = (manifest.firmware.filter (lowercase ·.key)).filterMap
    fun entry => (wanted? reader holdings manifest entry).bind (mismatch? entry)
  different : ∀ mismatch ∈ report.mismatches, mismatch.wanted ≠ mismatch.got

/-- The name that is noted of a key is the first that is not in small letters. -/
theorem offendingName?_eq (key : EntryKey) : offendingName? key = capital? key := by
  unfold offendingName? capital?
  cases target : Text.LetterCase.isLowercase key.buildTarget <;>
    cases model : Text.LetterCase.isLowercase key.model <;> simp [List.find?, target, model]

/-- A key is in small letters exactly when no name of it is noted. -/
theorem lowercase_eq (key : EntryKey) : lowercase key = (offendingName? key).isNone := by
  unfold offendingName? lowercase
  cases Text.LetterCase.isLowercase key.buildTarget <;>
    cases Text.LetterCase.isLowercase key.model <;> rfl

section Notes

variable (reader : ArchiveReader) (holdings : Holdings)

/-- What is noted of an operating-system entry. -/
def noteOs (progress : Progress) (entry : VersionEntry) : Progress :=
  match offendingName? entry.key with
  | some name => progress.noteCapitals name
  | none =>
    if available reader holdings entry then progress.noteFound entry.key entry.version
    else progress.noteMissing entry.key.buildTarget

/-- What is noted of a firmware entry. -/
def noteFirmwareEntry (progress : Progress) (entry : VersionEntry) : Progress :=
  if (offendingName? entry.key).isSome then
    progress.noteCapitals (BoardModel.allowKey ⟨entry.key.buildTarget, entry.key.model⟩)
  else
    match (progress.found.get? (deviceName entry.key)).bind fun version =>
        reader.firmwareIn holdings entry.key.buildTarget version entry.key.model with
    | none => progress.noteFailed ⟨entry.key.buildTarget, entry.key.model⟩
    | some firmware => progress.noteFirmware entry (.ok firmware)

end Notes

section Steps

variable {σ : Type} {host : Host σ} {start : ArchiveReader} {holdings : Holdings}
  {session left : Session σ} {progress next : Progress} {entry : VersionEntry}

/-- A check of an operating-system entry notes whether the archive has its record. -/
theorem noted_checkOs (static : host.Static start holdings) (ready : session.Ready start holdings)
    (checked : (checkOs progress entry).perform host session = (.ok next, left)) :
    left.Ready start holdings ∧ next = noteOs start holdings progress entry := by
  rcases checkOs_ok checked with ⟨name, offending, rfl, rfl⟩ | ⟨lower, answer, looked, _, rfl⟩
  · refine ⟨ready, ?_⟩
    simp only [noteOs, offending]
  · obtain ⟨found, leaves⟩ := ArchiveReader.ready_lookup static ready entry.key.buildTarget
      entry.version
    rw [looked] at found leaves
    dsimp only at found leaves
    refine ⟨leaves, ?_⟩
    cases recorded : start.recordIn holdings entry.key.buildTarget entry.version with
    | ok record =>
      have held : available start holdings entry = true := by rw [available, recorded]; rfl
      rw [recorded] at found
      obtain rfl : answer = .ok record := found
      simp only [noteOs, lower, held, if_true]
    | error error =>
      have lacking : available start holdings entry = false := by rw [available, recorded]; rfl
      rw [recorded] at found
      obtain rfl : answer = .error _ := found
      simp only [noteOs, lower, lacking, Bool.false_eq_true, if_false]

/-- A check of a firmware entry notes whether its firmware is that of the archive. -/
theorem noted_checkFirmware (static : host.Static start holdings)
    (ready : session.Ready start holdings)
    (checked : (checkFirmware progress entry).perform host session = (.ok next, left)) :
    left.Ready start holdings ∧ next = noteFirmwareEntry start holdings progress entry := by
  rcases checkFirmware_ok checked with
    ⟨offending, rfl, rfl⟩ | ⟨lower, unknown, rfl, rfl⟩ |
      ⟨lower, version, answer, known, looked, _, rfl⟩
  · refine ⟨ready, ?_⟩
    rw [noteFirmwareEntry, if_pos offending]
  · refine ⟨ready, ?_⟩
    simp only [noteFirmwareEntry, lower, unknown, Option.isSome_none, Bool.false_eq_true, if_false,
      Option.bind_none]
  · obtain ⟨found, leaves⟩ := ArchiveReader.ready_lookup static ready entry.key.buildTarget version
    rw [ArchiveReader.perform_firmwareVersion, found] at looked
    obtain ⟨rfl, rfl⟩ := Prod.mk.inj looked
    refine ⟨leaves, ?_⟩
    simp only [noteFirmwareEntry, lower, known, Option.isSome_none, Bool.false_eq_true, if_false,
      Option.bind_some, ArchiveReader.firmwareIn]
    cases start.recordIn holdings entry.key.buildTarget version with
    | error error => rfl
    | ok record =>
      change progress.noteFirmware entry ((record.get? entry.key.model).elim _ _) = _
      simp only [Except.toOption, Option.bind_some]
      cases record.get? entry.key.model with
      | none => rfl
      | some firmware => rfl

/-- Checks of entries in turn note what each of them notes. -/
theorem noted_checkAll {check : Progress → VersionEntry → Reading Progress}
    {note : Progress → VersionEntry → Progress}
    (each : ∀ {before after : Progress} {first last : Session σ} {entry : VersionEntry},
      first.Ready start holdings → (check before entry).perform host first = (.ok after, last) →
      last.Ready start holdings ∧ after = note before entry)
    {entries : List VersionEntry} (ready : session.Ready start holdings)
    (checked : (checkAll check progress entries).perform host session = (.ok next, left)) :
    left.Ready start holdings ∧ next = entries.foldl note progress := by
  induction entries generalizing progress session with
  | nil =>
    cases checked
    exact ⟨ready, rfl⟩
  | cons entry entries inductionHypothesis =>
    obtain ⟨middle, between, here, others⟩ := Reading.bind_ok checked
    obtain ⟨goesOn, rfl⟩ := each ready here
    exact inductionHypothesis goesOn others

end Steps

section Lists

variable (reader : ArchiveReader) (holdings : Holdings)

/-- The notes of operating-system entries list their names that are not in small letters,
and the build targets of those in small letters that have no record. -/
theorem report_noteOs (entries : List VersionEntry) (progress : Progress) :
    (entries.foldl (noteOs reader holdings) progress).report =
      { nonLowercase := progress.report.nonLowercase ++ entries.filterMap (capital? ·.key)
        missingBoards := progress.report.missingBoards ++ (entries.filter fun entry =>
          lowercase entry.key && !available reader holdings entry).map (·.key.buildTarget)
        failedLookups := progress.report.failedLookups
        mismatches := progress.report.mismatches } := by
  induction entries generalizing progress with
  | nil => simp
  | cons entry entries inductionHypothesis =>
    rw [List.foldl_cons, inductionHypothesis, noteOs]
    have lower := lowercase_eq entry.key
    rw [offendingName?_eq] at lower ⊢
    cases offending : capital? entry.key with
    | some name =>
      rw [offending] at lower
      simp [Progress.noteCapitals, offending, lower]
    | none =>
      rw [offending] at lower
      cases held : available reader holdings entry with
      | true => simp [Progress.noteFound, offending, lower, held]
      | false => simp [Progress.noteMissing, offending, lower, held]

/-- The version that is found for a name, after the notes of operating-system entries, is
that of the last entry of the name that is in small letters and has a record. -/
theorem found_noteOs (entries : List VersionEntry) (progress : Progress) (name : String) :
    (entries.foldl (noteOs reader holdings) progress).found.get? name =
      ((entries.filter fun entry => lowercase entry.key && available reader holdings entry &&
        deviceName entry.key = name).getLast?.map (·.version)).or (progress.found.get? name) := by
  induction entries generalizing progress with
  | nil => rfl
  | cons entry entries inductionHypothesis =>
    rw [List.foldl_cons, inductionHypothesis, noteOs]
    have lower := lowercase_eq entry.key
    cases offending : offendingName? entry.key with
    | some letter =>
      rw [offending] at lower
      simp [Progress.noteCapitals, lower]
    | none =>
      rw [offending] at lower
      cases held : available reader holdings entry with
      | false => simp [Progress.noteMissing, held]
      | true =>
        by_cases here : deviceName entry.key = name
        · simp [Progress.noteFound, lower, held, here, List.getLast?_cons]
        · simp [Progress.noteFound, held, here, Ne.symm here]

/-- The notes of a firmware entry leave the versions that were found. -/
theorem found_noteFirmwareEntry (progress : Progress) (entry : VersionEntry) :
    (noteFirmwareEntry reader holdings progress entry).found = progress.found := by
  unfold noteFirmwareEntry
  split
  · rfl
  · split
    · rfl
    · exact progress.found_noteFirmware entry _

/-- The notes of firmware entries list the devices of those that are not in small letters,
the devices without firmware in the archive, and the firmware that is not the archive's. -/
theorem report_noteFirmware {wanted : VersionEntry → Option String} (entries : List VersionEntry)
    {progress : Progress}
    (known : ∀ entry : VersionEntry, ((progress.found.get? (deviceName entry.key)).bind
      fun version => reader.firmwareIn holdings entry.key.buildTarget version entry.key.model) =
        wanted entry) :
    (entries.foldl (noteFirmwareEntry reader holdings) progress).report =
      { nonLowercase := progress.report.nonLowercase ++ (entries.filter (!lowercase ·.key)).map
          fun entry => entry.key.buildTarget ++ ";" ++ entry.key.model
        missingBoards := progress.report.missingBoards
        failedLookups := progress.report.failedLookups ++ (entries.filter fun entry =>
          lowercase entry.key && (wanted entry).isNone).map (deviceOf ·.key)
        mismatches := progress.report.mismatches ++ (entries.filter (lowercase ·.key)).filterMap
          fun entry => (wanted entry).bind (mismatch? entry) } := by
  induction entries generalizing progress with
  | nil => simp
  | cons entry entries inductionHypothesis =>
    have later := known
    rw [← found_noteFirmwareEntry reader holdings progress entry] at later
    rw [List.foldl_cons, inductionHypothesis later, noteFirmwareEntry, known]
    have lower := lowercase_eq entry.key
    cases offending : offendingName? entry.key with
    | some name =>
      rw [offending] at lower
      simp [Progress.noteCapitals, BoardModel.allowKey, lower]
    | none =>
      rw [offending] at lower
      cases has : wanted entry with
      | none => simp [Progress.noteFailed, lower, has, deviceOf]
      | some firmware =>
        by_cases agree : firmware = entry.version
        · simp [Progress.noteFirmware, lower, has, agree, mismatch?]
        · simp [Progress.noteFirmware, Progress.noteMismatch, lower, has, agree, mismatch?,
            deviceOf]

end Lists

/-- In an archive that stays as it is, the check of a manifest has a report, which lists
exactly what is amiss. Reported firmware has no influence. -/
theorem validate_reports {σ : Type} (host : Host σ) (holdings : Holdings) (manifest : Manifest)
    (session : Session σ) (static : host.Static session.reader holdings)
    (faithful : session.reader.Faithful holdings) (untold : session.run.stopped = false) :
    ∃ report, ((validate manifest).perform host session).1 = .ok report ∧
      Reports session.reader holdings manifest report ∧
      ∀ faft, (validate { manifest with faft := faft }).perform host session =
        (validate manifest).perform host session := by
  have ready : session.Ready session.reader holdings := ⟨.refl _, faithful, untold⟩
  obtain ⟨⟨report, _, validated, _, _⟩, _⟩ :=
    validate_matches static manifest session session ready (.refl _)
  refine ⟨report, validated, ?_, fun _ => rfl⟩
  obtain ⟨middle, between, os, checked⟩ := Reading.bind_ok (Prod.ext validated rfl)
  obtain ⟨final, last, firmware, reported⟩ := Reading.bind_ok checked
  obtain ⟨goesOn, rfl⟩ := noted_checkAll (noted_checkOs static) ready os
  obtain ⟨_, rfl⟩ := noted_checkAll (noted_checkFirmware static) goesOn firmware
  have known (entry : VersionEntry) : ((manifest.cros.foldl (noteOs session.reader holdings)
      {}).found.get? (deviceName entry.key)).bind (fun version =>
        session.reader.firmwareIn holdings entry.key.buildTarget version entry.key.model) =
      wanted? session.reader holdings manifest entry := by
    rw [found_noteOs]
    exact congrArg (Option.bind · _) (Option.or_none ..)
  have listed := report_noteFirmware session.reader holdings manifest.firmware known
  simp only [report_noteOs, List.nil_append] at listed
  obtain rfl := Except.ok.inj (congrArg Prod.fst reported)
  constructor
  case nonLowercase => rw [listed]
  case missing => rw [listed]
  case failed => rw [listed]
  case mismatched => rw [listed]
  case different =>
    intro mismatch present
    rw [listed] at present
    obtain ⟨entry, _, found⟩ := List.mem_filterMap.mp present
    obtain ⟨wanted, _, differs⟩ := Option.bind_eq_some_iff.mp found
    rw [mismatch?] at differs
    split at differs
    · cases differs
    · next different =>
      cases differs
      exact different

/-- A manifest with a device that has three versions, the last of them without a record,
with capital letters in both sections, and with firmware that cannot be looked up. -/
def everyFinding : Manifest where
  cros := [
    .of "nami" "sona" "R77-12371.52.22", .of "nami" "sona" "R80-12739.0.0",
    .of "nami" "sona" "R99-14469.59.0", .of "Nami" "Sona" "R77-12371.52.22",
    .of "nami" "Sona" "R77-12371.52.22", .of "nami" "vayne" "R77-12371.52.22",
    .of "coral" "" "R80-12739.0.0"]
  firmware := [
    .of "nami" "vayne" "Google_Nami.10775.108.0", .of "nami" "Sona" "Google_Nami.10775.108.0",
    .of "nami" "sona" "Google_Nami.8438.184.0", .of "nami" "sona" "Google_Nami.10775.108.0",
    .of "coral" "" "Google_Coral.10068.113.0"]

theorem validate_reports_everyFinding :
    reportOn twoFirmwares everyFinding = .ok {
        nonLowercase := ["Nami", "Sona", "nami;Sona"]
        missingBoards := ["nami", "coral"]
        failedLookups := [⟨"nami", "vayne"⟩, ⟨"coral", ""⟩]
        mismatches := [⟨⟨"nami", "sona"⟩, "Google_Nami.10775.108.0", "Google_Nami.8438.184.0"⟩] } ∧
      ∃ report, reportOn twoFirmwares everyFinding = .ok report ∧
        Reports Session.fresh.reader twoFirmwares.object everyFinding report := by
  obtain ⟨report, reported, reports, _⟩ := validate_reports twoFirmwares.host twoFirmwares.object
    everyFinding .fresh (twoFirmwares.static _) (ArchiveReader.faithful_of_empty rfl _) rfl
  exact ⟨eq_ok_of_toOption (by decide +kernel), report, reported, reports⟩

end StableFleet.Deep
