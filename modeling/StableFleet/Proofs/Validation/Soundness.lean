import StableFleet.Proofs.Manifest.Order
import StableFleet.Proofs.Validation.Progress

/-!
# What an empty report vouches for

A check of a manifest against an archive that finds nothing amiss vouches for every
firmware entry: there is an operating-system entry of its name, and the record of the
board of the firmware entry, at the version of that operating-system entry, has exactly
the firmware of the entry.

A name is a build target and a model joined by a mark. So the two entries are about the
same device when neither build target has the mark, but not in general: a board whose
build target is `nami;sona` lends its version to the model `sona` of the board `nami`.
-/

namespace StableFleet.Deep

variable {σ : Type} {host : Host σ} {session left : Session σ} {progress next : Progress}

/-- Keys of the same name whose build targets do not have the mark are the same. -/
theorem eq_of_deviceName_eq {key other : EntryKey} (plain : ';' ∉ key.buildTarget.toList)
    (plain' : ';' ∉ other.buildTarget.toList) (same : deviceName key = deviceName other) :
    key = other :=
  EntryKey.eq_of_joined_eq rfl plain plain' same

/-- The versions that are found after some entries were checked were found before, or
are those of entries of the name. -/
def FindsAmong (entries : List VersionEntry) (before after : Progress) : Prop :=
  ∀ {name version}, after.found.get? name = some version →
    before.found.get? name = some version ∨
      ∃ entry ∈ entries, deviceName entry.key = name ∧ entry.version = version

/-- A check of one of some operating-system entries finds the version of that entry,
or none. -/
theorem findsAmong_checkOs {entries : List VersionEntry} {entry : VersionEntry}
    (member : entry ∈ entries)
    (checked : (checkOs progress entry).perform host session = (.ok next, left)) :
    FindsAmong entries progress next := by
  intro name version found
  rcases checkOs_ok checked with ⟨_, _, rfl, _⟩ | ⟨_, answer, _, _, rfl⟩
  · exact .inl found
  · cases answer with
    | error error => exact .inl found
    | ok record =>
      have inserted : (progress.found.insert (deviceName entry.key) entry.version).get? name =
          some version := found
      rw [Table.get?_insert] at inserted
      split at inserted
      · next same => exact .inr ⟨entry, member, same.symm, Option.some.inj inserted⟩
      · exact .inl inserted

/-- What a check of operating-system entries keeps up: the session goes on, and the
versions found are those of the entries. -/
theorem found_checkOs {entries : List VersionEntry}
    (checked : (checkAll checkOs progress entries).perform host session = (.ok next, left)) :
    session.GoesOn host left ∧ FindsAmong entries progress next := by
  have steps := checkAll_steps
    (fun before after =>
      before.2.GoesOn host after.2 ∧ FindsAmong entries before.1 after.1)
    (fun _ => ⟨.refl _, .inl⟩)
    (fun before after => ⟨before.1.trans after.1, fun found =>
      (after.2 found).elim before.2 .inr⟩)
    (fun entry member {_ _ _ _} checked =>
      ⟨goesOn_checkOs checked, findsAmong_checkOs member checked⟩) checked
  exact steps.1

/-- What a check of firmware entries keeps up: the session goes on, the versions found
stay, and the anomalies do not become fewer. -/
theorem checkFirmware_keeps {entry : VersionEntry}
    (checked : (checkFirmware progress entry).perform host session = (.ok next, left)) :
    session.GoesOn host left ∧ next.found = progress.found ∧
      progress.report.count ≤ next.report.count := by
  refine ⟨goesOn_checkFirmware checked, ?_⟩
  rcases checkFirmware_ok checked with
    ⟨_, _, rfl⟩ | ⟨_, _, _, rfl⟩ | ⟨_, version, answer, _, _, _, rfl⟩
  · exact ⟨rfl, by simp⟩
  · exact ⟨rfl, by simp⟩
  · refine ⟨progress.found_noteFirmware entry answer, ?_⟩
    rw [Progress.count_noteFirmware]
    split
    · exact Nat.le_refl _
    · exact Nat.le_succ _

/-- A check of a firmware entry that adds no anomaly has found a version for the name of
the entry, and the firmware of the entry on the record of that version. -/
theorem vouches_checkFirmware {holdings : Holdings} {entry : VersionEntry}
    (serves : host.Serves session.reader.backend holdings)
    (faithful : session.reader.Faithful holdings)
    (checked : (checkFirmware progress entry).perform host session = (.ok next, left))
    (clean : next.report.count = progress.report.count) :
    ∃ version, progress.found.get? (deviceName entry.key) = some version ∧
      session.reader.firmwareIn holdings entry.key.buildTarget version entry.key.model =
        some entry.version := by
  rcases checkFirmware_ok checked with
    ⟨_, _, rfl⟩ | ⟨_, _, _, rfl⟩ | ⟨_, version, answer, found, looked, _, rfl⟩
  · simp at clean
  · simp at clean
  · refine ⟨version, found, ?_⟩
    rw [Progress.count_noteFirmware] at clean
    split at clean
    · next agree =>
      rw [ArchiveReader.perform_firmwareVersion] at looked
      cases build : (ArchiveReader.firmwareVersions entry.key.buildTarget version).perform host
          session with
      | mk answered after =>
        rw [build] at looked
        cases answered with
        | error error =>
          cases looked
          cases agree
        | ok record =>
          have recorded := ArchiveReader.recordIn_of_lookup serves faithful build
          rw [ArchiveReader.firmwareIn, recorded]
          cases looked
          change record.get? entry.key.model = some entry.version
          cases named : record.get? entry.key.model with
          | none =>
            simp [Except.bind, named, Except.toOption] at agree
          | some firmware =>
            simpa [Except.bind, named, Except.toOption] using agree
    · omega

/-- A check against an archive that stays as it is vouches for the firmware of a
manifest when it reports nothing: an operating-system entry of the same name gives the
version whose record has exactly this firmware for the model. That entry is about the
same device, unless one of the two build targets has the mark that joins names. -/
theorem firmware_vouched_of_clean (host : Host σ) (holdings : Holdings) (manifest : Manifest)
    (session left : Session σ) (report : Report)
    (serves : host.Serves session.reader.backend holdings)
    (faithful : session.reader.Faithful holdings)
    (validated : (validate manifest).perform host session = (.ok report, left))
    (clean : report.count = 0) (entry : VersionEntry) (present : entry ∈ manifest.firmware) :
    ∃ os ∈ manifest.cros, deviceName os.key = deviceName entry.key ∧
      session.reader.firmwareIn holdings entry.key.buildTarget os.version entry.key.model =
        some entry.version ∧
      (';' ∉ os.key.buildTarget.toList → ';' ∉ entry.key.buildTarget.toList →
        os.key = entry.key) := by
  obtain ⟨middle, between, os, validated⟩ := Reading.bind_ok validated
  obtain ⟨final, last, firmware, reported⟩ := Reading.bind_ok validated
  cases reported
  obtain ⟨goesOn, found⟩ := found_checkOs os
  obtain ⟨_, steps⟩ := checkAll_steps
    (fun before after => before.2.GoesOn host after.2 ∧
      after.1.found = before.1.found ∧ before.1.report.count ≤ after.1.report.count)
    (fun _ => ⟨.refl _, rfl, Nat.le_refl _⟩)
    (fun before after => ⟨before.1.trans after.1, after.2.1.trans before.2.1,
      Nat.le_trans before.2.2 after.2.2⟩)
    (fun _ _ {_ _ _ _} checked => checkFirmware_keeps checked) firmware
  obtain ⟨before, first, after, _, checked, ⟨reaches, kept, _⟩, ⟨_, _, fewer⟩⟩ :=
    steps entry present
  have whole := goesOn.trans reaches
  have none : after.report.count = before.report.count := by
    have more := (checkFirmware_keeps checked).2.2
    change after.report.count ≤ final.report.count at fewer
    omega
  obtain ⟨version, known, recorded⟩ := vouches_checkFirmware
    (whole.continues.backend ▸ serves) (whole.faithful serves faithful) checked none
  rw [show before.found = middle.found from kept] at known
  rcases found known with contradiction | ⟨source, member, named, same⟩
  · cases contradiction
  · refine ⟨source, member, named, ?_, fun plain plain' => eq_of_deviceName_eq plain plain' named⟩
    rw [ArchiveReader.firmwareIn, whole.continues.recordIn] at recorded
    rw [same]
    exact recorded

/-- What a check of a manifest against an archive reports. -/
def reportOn (shelf : Shelf) (manifest : Manifest) : Except Error Report :=
  ((validate manifest).perform shelf.host .fresh).1

/-- A check that reports something leaves some session. -/
theorem validated_of_reportOn {shelf : Shelf} {manifest : Manifest} {report : Report}
    (reported : reportOn shelf manifest = .ok report) :
    (validate manifest).perform shelf.host .fresh =
      (.ok report, ((validate manifest).perform shelf.host .fresh).2) :=
  Prod.ext reported rfl

/-- A manifest that gives one model two versions. -/
def twoVersions : Manifest where
  cros := [.of "nami" "sona" "R77-12371.52.22", .of "nami" "sona" "R80-12739.0.0"]
  firmware := [.of "nami" "sona" "Google_Nami.10775.108.0"]

/-- An archive with other firmware of that model at the first version than at the
second. -/
def twoFirmwares : Shelf where
  objects := [
    ("gs://archive/nami-release/R77-12371.52.22/metadata.json",
      Shelf.record "nami" "sona" "Google_Nami.8438.184.0"),
    ("gs://archive/nami-release/R80-12739.0.0/metadata.json",
      Shelf.record "nami" "sona" "Google_Nami.10775.108.0")]

theorem firmware_vouched_twoVersions :
    reportOn twoFirmwares twoVersions = .ok {} ∧
      ∃ os ∈ twoVersions.cros, deviceName os.key = "nami;sona" ∧
        Session.fresh.reader.firmwareIn twoFirmwares.object "nami" os.version "sona" =
          some "Google_Nami.10775.108.0" ∧
        (';' ∉ os.key.buildTarget.toList → ';' ∉ "nami".toList → os.key = ⟨"nami", "sona"⟩) := by
  have reported : reportOn twoFirmwares twoVersions = .ok {} :=
    eq_ok_of_toOption (by decide +kernel)
  exact ⟨reported, firmware_vouched_of_clean twoFirmwares.host twoFirmwares.object twoVersions
    .fresh _ {} (twoFirmwares.serves _) (ArchiveReader.faithful_of_empty rfl _)
    (validated_of_reportOn reported) (by decide) _ List.mem_cons_self⟩

/-- A manifest whose one operating-system entry is about a board named like a device,
and whose one firmware entry is about that device. -/
def namedLikeDevice : Manifest where
  cros := [.of "nami;sona" "" "R77-12371.52.22"]
  firmware := [.of "nami" "sona" "Google_Nami.8438.184.0"]

/-- An archive with records of both boards at that version. -/
def bothBoards : Shelf where
  objects := [
    ("gs://archive/nami;sona-release/R77-12371.52.22/metadata.json",
      Shelf.record "nami;sona" "sona" "Google_Nami.8438.184.0"),
    ("gs://archive/nami-release/R77-12371.52.22/metadata.json",
      Shelf.record "nami" "sona" "Google_Nami.8438.184.0")]

/-- Nothing is reported of that manifest, although it has no operating-system entry
about the device. -/
theorem clean_namedLikeDevice :
    reportOn bothBoards namedLikeDevice = .ok {} ∧ ({} : Report).count = 0 ∧
      (∀ entry ∈ namedLikeDevice.cros ++ namedLikeDevice.firmware,
        Text.LetterCase.isLowercase entry.key.buildTarget = true ∧
          Text.LetterCase.isLowercase entry.key.model = true) ∧
      ∃ entry ∈ namedLikeDevice.firmware, ∀ os ∈ namedLikeDevice.cros,
        ¬ (os.key.buildTarget = entry.key.buildTarget ∧ os.key.model = entry.key.model) :=
  ⟨eq_ok_of_toOption (by decide +kernel), by decide, by decide +kernel, by decide⟩

end StableFleet.Deep
