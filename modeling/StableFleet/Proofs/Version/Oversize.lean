import StableFleet.Proofs.Version.Codec

/-!
# Firmware with numbers that do not fit

A text is admitted as firmware by its form alone: it spells a firmware bundle or reported
firmware, with numbers of any size. It spells one such form only, and it is read as a version
exactly when the numbers of that form fit words of 64 bits. So what is admitted beyond the
texts of versions are the texts of the same forms with a number that does not fit.
-/

namespace StableFleet.Version

/-- What a text of firmware spells, with numbers of any size. -/
inductive FirmwareForm
  | bundle (platform : String) (release tip branch branchbranch : Nat)
  | reported (company platform : String) (tip branch branchbranch : Nat)

namespace FirmwareForm

/-- The names in a form are made up of the characters that are allowed in them. -/
def WellNamed : FirmwareForm → Prop
  | bundle platform .. => Named PlatformChar platform
  | reported company platform .. => Named CompanyChar company ∧ Named PlatformChar platform

/-- The numbers in a form. -/
def numbers : FirmwareForm → List Nat
  | bundle _ release tip branch branchbranch => [release, tip, branch, branchbranch]
  | reported _ _ tip branch branchbranch => [tip, branch, branchbranch]

/-- The names and numbers of a form joined by its marks. -/
def chars : FirmwareForm → List Char
  | bundle platform release tip branch branchbranch => platform.toList ++
      '-' :: ("firmware/".toList ++ joinOs release tip branch branchbranch)
  | reported company platform tip branch branchbranch => company.toList ++
      '_' :: (platform.toList ++ '.' :: joinBranches tip branch branchbranch)

/-- Every number in a form fits a word of 64 bits. -/
def Fits (form : FirmwareForm) : Prop := ∀ number ∈ form.numbers, number < UInt64.size

/-- The form of a firmware bundle. -/
def ofBundle (version : FirmwareVersion) : FirmwareForm :=
  .bundle version.platform version.build.release.toNat version.build.tip.toNat
    version.build.branch.toNat version.build.branchbranch.toNat

/-- The form of reported firmware. -/
def ofReported (version : FaftVersion) : FirmwareForm :=
  .reported version.company version.platform version.tip.toNat version.branch.toNat
    version.branchbranch.toNat

end FirmwareForm

/-- A text spells a form. -/
def Spells (text : String) (form : FirmwareForm) : Prop :=
  form.WellNamed ∧ text.toList = form.chars

/-- A text has the form of firmware, with a number that does not fit. -/
def Oversized (text : String) : Prop :=
  ∃ form, Spells text form ∧ ∃ number ∈ form.numbers, UInt64.size ≤ number

section Forms

variable {text company platform : String} {release tip branch branchbranch : Nat}

theorem spells_bundle_iff : Spells text (.bundle platform release tip branch branchbranch) ↔
    firmwareParts? text.toList = some (platform.toList, release, tip, branch, branchbranch) := by
  simp only [firmwareParts?_eq_some_iff, osNumbers?_eq_some_iff, exists_eq_left]
  rfl

theorem spells_reported_iff : Spells text (.reported company platform tip branch branchbranch) ↔
    faftParts? text.toList = some (company.toList, platform.toList, tip, branch, branchbranch) := by
  rw [faftParts?_eq_some_iff, ← and_assoc]
  rfl

/-- A text has the form of firmware exactly when it spells one. -/
theorem looksLikeFirmware_iff : looksLikeFirmware text = true ↔ ∃ form, Spells text form := by
  rw [looksLikeFirmware, Bool.or_eq_true, Option.isSome_iff_exists, Option.isSome_iff_exists]
  constructor
  · rintro (⟨⟨platform, release, tip, branch, branchbranch⟩, found⟩ |
      ⟨⟨company, platform, tip, branch, branchbranch⟩, found⟩)
    · refine ⟨.bundle (String.ofList platform) release tip branch branchbranch, ?_⟩
      rw [spells_bundle_iff, String.toList_ofList, found]
    · refine ⟨.reported (String.ofList company) (String.ofList platform) tip branch branchbranch, ?_⟩
      rw [spells_reported_iff, String.toList_ofList, String.toList_ofList, found]
  · rintro ⟨form, spelled⟩
    cases form with
    | bundle => exact .inl ⟨_, spells_bundle_iff.mp spelled⟩
    | reported => exact .inr ⟨_, spells_reported_iff.mp spelled⟩

/-- The text of a bundle has a hyphen, that of reported firmware has none. -/
theorem Spells.hyphen_mem
    (spelled : Spells text (.bundle platform release tip branch branchbranch)) :
    '-' ∈ text.toList := by
  simp [spelled.2, FirmwareForm.chars]

theorem Spells.hyphen_not_mem
    (spelled : Spells text (.reported company platform tip branch branchbranch)) :
    '-' ∉ text.toList := by
  obtain ⟨⟨ofCompany, ofPlatform⟩, same⟩ := spelled
  rw [same]
  exact hyphen_not_mem_reported ofCompany ofPlatform tip branch branchbranch

/-- A text spells one form only. -/
theorem Spells.unique {form other : FirmwareForm} (spelled : Spells text form)
    (again : Spells text other) : form = other := by
  cases form with
  | bundle =>
    cases other with
    | bundle =>
      have same := (spells_bundle_iff.mp spelled).symm.trans (spells_bundle_iff.mp again)
      simpa [String.toList_inj] using same
    | reported => exact absurd spelled.hyphen_mem again.hyphen_not_mem
  | reported =>
    cases other with
    | bundle => exact absurd again.hyphen_mem spelled.hyphen_not_mem
    | reported =>
      have same := (spells_reported_iff.mp spelled).symm.trans (spells_reported_iff.mp again)
      simpa [String.toList_inj] using same

/-- A number that fits is held by a word. -/
theorem exists_word {number : Nat} (fits : number < UInt64.size) :
    ∃ word : UInt64, word.toNat = number :=
  ⟨UInt64.ofNat number, UInt64.toNat_ofNat_of_lt fits⟩

/-- The numbers of a form fit exactly when it is the form of a version of one kind or the
other. -/
theorem FirmwareForm.fits_iff {form : FirmwareForm} :
    form.Fits ↔ (∃ version, form = .ofBundle version) ∨ ∃ version, form = .ofReported version := by
  constructor
  · intro fits
    cases form with
    | bundle platform =>
      simp only [FirmwareForm.Fits, FirmwareForm.numbers, List.forall_mem_cons] at fits
      obtain ⟨release, rfl⟩ := exists_word fits.1
      obtain ⟨tip, rfl⟩ := exists_word fits.2.1
      obtain ⟨branch, rfl⟩ := exists_word fits.2.2.1
      obtain ⟨branchbranch, rfl⟩ := exists_word fits.2.2.2.1
      exact .inl ⟨⟨platform, ⟨release, tip, branch, branchbranch⟩⟩, rfl⟩
    | reported company platform =>
      simp only [FirmwareForm.Fits, FirmwareForm.numbers, List.forall_mem_cons] at fits
      obtain ⟨tip, rfl⟩ := exists_word fits.1
      obtain ⟨branch, rfl⟩ := exists_word fits.2.1
      obtain ⟨branchbranch, rfl⟩ := exists_word fits.2.2.1
      exact .inr ⟨⟨company, platform, tip, branch, branchbranch⟩, rfl⟩
  · rintro (⟨version, rfl⟩ | ⟨version, rfl⟩) <;>
      simp [FirmwareForm.Fits, FirmwareForm.numbers, FirmwareForm.ofBundle,
        FirmwareForm.ofReported, UInt64.toNat_lt_size]

/-- A bundle is parsed from the texts that spell its form. -/
theorem parse?_bundle_iff {version : FirmwareVersion} :
    FirmwareVersion.parse? text = some version ↔ Spells text (.ofBundle version) := by
  rw [FirmwareVersion.parse?_eq_some_iff, ← String.toList_inj, FirmwareVersion.toList_text,
    OsVersion.toList_text, and_comm]
  rfl

/-- Reported firmware is parsed from the texts that spell its form. -/
theorem parse?_reported_iff {version : FaftVersion} :
    FaftVersion.parse? text = some version ↔ Spells text (.ofReported version) := by
  rw [FaftVersion.parse?_eq_some_iff, ← String.toList_inj, FaftVersion.toList_text, and_comm]
  rfl

/-- A reader that is made of a parser accepts what the parser reads. -/
theorem accepts_orMalformed_iff {α : Type} {kind : String} {parse? : String → Option α} :
    Accepts (fun text => orMalformed kind text (parse? text)) text ↔
      ∃ version, parse? text = some version :=
  exists_congr fun _ => orMalformed_eq_ok_iff

/-- A text is read as firmware of one kind or the other exactly when it spells a form whose
numbers fit. -/
theorem accepts_firmware_iff : Accepts readFirmware text ∨ Accepts readFaft text ↔
    ∃ form, Spells text form ∧ form.Fits := by
  have bundle : Accepts readFirmware text ↔ ∃ version, Spells text (.ofBundle version) :=
    accepts_orMalformed_iff.trans (exists_congr fun _ => parse?_bundle_iff)
  have reported : Accepts readFaft text ↔ ∃ version, Spells text (.ofReported version) :=
    accepts_orMalformed_iff.trans (exists_congr fun _ => parse?_reported_iff)
  rw [bundle, reported]
  constructor
  · rintro (⟨version, spelled⟩ | ⟨version, spelled⟩)
    · exact ⟨_, spelled, FirmwareForm.fits_iff.mpr (.inl ⟨version, rfl⟩)⟩
    · exact ⟨_, spelled, FirmwareForm.fits_iff.mpr (.inr ⟨version, rfl⟩)⟩
  · rintro ⟨form, spelled, fits⟩
    rcases FirmwareForm.fits_iff.mp fits with ⟨version, rfl⟩ | ⟨version, rfl⟩
    · exact .inl ⟨version, spelled⟩
    · exact .inr ⟨version, spelled⟩

end Forms

/-- A text is admitted as firmware exactly when it is read as a firmware bundle, is read as
reported firmware, or has the form of one of them with a number that does not fit; and a text
of the last kind is read as neither. -/
theorem checkFirmwareLike_iff (text : String) :
    (checkFirmwareLike text = .ok () ↔
      Accepts readFirmware text ∨ Accepts readFaft text ∨ Oversized text) ∧
    ¬ ((Accepts readFirmware text ∨ Accepts readFaft text) ∧ Oversized text) := by
  have admitted : checkFirmwareLike text = .ok () ↔ ∃ form, Spells text form := by
    rw [← looksLikeFirmware_iff, checkFirmwareLike]
    cases looksLikeFirmware text <;> simp
  constructor
  · rw [admitted, ← or_assoc, accepts_firmware_iff]
    constructor
    · rintro ⟨form, spelled⟩
      by_cases fits : form.Fits
      · exact .inl ⟨form, spelled, fits⟩
      · simp only [FirmwareForm.Fits, not_forall, Nat.not_lt] at fits
        obtain ⟨number, present, great⟩ := fits
        exact .inr ⟨form, spelled, number, present, great⟩
    · rintro (⟨form, spelled, _⟩ | ⟨form, spelled, _⟩) <;> exact ⟨form, spelled⟩
  · rintro ⟨accepted, other, again, number, present, great⟩
    obtain ⟨form, spelled, fits⟩ := accepts_firmware_iff.mp accepted
    obtain rfl : form = other := spelled.unique again
    exact absurd (fits number present) (Nat.not_lt.mpr great)

/-- Reported firmware whose first number is the least that does not fit is admitted, but it is
not read as a version. -/
theorem checkFirmwareLike_leastOversized :
    checkFirmwareLike "Google_Nami.18446744073709551616.0.0" = .ok () ∧
      ¬ (Accepts readFirmware "Google_Nami.18446744073709551616.0.0" ∨
        Accepts readFaft "Google_Nami.18446744073709551616.0.0") := by
  have form : looksLikeFirmware "Google_Nami.18446744073709551616.0.0" = true := by
    decide +kernel
  have noBundle : FirmwareVersion.parse? "Google_Nami.18446744073709551616.0.0" = none := by
    decide +kernel
  have notReported : FaftVersion.parse? "Google_Nami.18446744073709551616.0.0" = none := by
    decide +kernel
  refine ⟨if_pos form, ?_⟩
  rintro (accepted | accepted)
  · obtain ⟨version, found⟩ := accepts_orMalformed_iff.mp accepted
    cases noBundle.symm.trans found
  · obtain ⟨version, found⟩ := accepts_orMalformed_iff.mp accepted
    cases notReported.symm.trans found

end StableFleet.Version
