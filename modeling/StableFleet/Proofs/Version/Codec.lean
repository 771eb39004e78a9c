import Mathlib.Data.Option.Basic
import StableFleet.Proofs.Text.Decimal
import StableFleet.Version.Check

/-!
# Versions and their texts

Each grammar matches the texts that join a version's parts by its marks, and no others:
none of the marks stands in a part before it, so the parts are found again. A version is
therefore read from its own text and from that text alone.

The marks also tell the three kinds of version apart: reported firmware has no hyphen, and
of the other two only a firmware bundle has a slash.
-/

namespace StableFleet

open Text.Decimal (digits)

namespace Version

/-- A name is made up of allowed characters, and there are some in it. -/
def Named (allowed : Char → Prop) (name : String) : Prop :=
  name ≠ "" ∧ ∀ char ∈ name.toList, allowed char

/-- The letters and digits that make up the name of a company. -/
def CompanyChar (char : Char) : Prop := char.isAlphanum = true

/-- The letters, digits and underscores that make up the name of a platform. -/
def PlatformChar (char : Char) : Prop := char.isAlphanum = true ∨ char = '_'

instance : DecidablePred CompanyChar := fun _ => inferInstanceAs (Decidable (_ = true))

instance : DecidablePred PlatformChar := fun _ => inferInstanceAs (Decidable (_ ∨ _))

theorem isName_company_iff {name : String} :
    isName Char.isAlphanum name.toList = true ↔ Named CompanyChar name := by
  simp [isName, Named, CompanyChar]

theorem isName_platform_iff {name : String} :
    isName isPlatformChar name.toList = true ↔ Named PlatformChar name := by
  simp [isName, Named, PlatformChar, isPlatformChar]

/-- A mark that is not allowed does not stand in a name. -/
theorem Named.free {allowed : Char → Prop} {name : String} (named : Named allowed name)
    {mark : Char} (other : ¬ allowed mark) : mark ∉ name.toList :=
  fun present => other (named.2 mark present)

/-- Three numbers joined by points. -/
def joinBranches (tip branch branchbranch : Nat) : List Char :=
  digits tip ++ '.' :: (digits branch ++ '.' :: digits branchbranch)

/-- The text of an operating-system version with some numbers. -/
def joinOs (release tip branch branchbranch : Nat) : List Char :=
  'R' :: (digits release ++ '-' :: joinBranches tip branch branchbranch)

section Grammar

variable {chars : List Char} {release tip branch branchbranch : Nat}

theorem branches?_eq_some_iff :
    branches? chars = some (tip, branch, branchbranch) ↔
      chars = joinBranches tip branch branchbranch := by
  unfold branches? joinBranches
  simp only [Option.bind_eq_bind, Option.bind_eq_some_iff, Prod.exists, Text.cutAt?_eq_some_iff,
    Text.Decimal.read?_eq_some_iff, Option.pure_def, Option.some.injEq, Prod.mk.injEq]
  constructor
  · rintro ⟨_, _, ⟨rfl, _⟩, _, _, ⟨rfl, _⟩, _, rfl, _, rfl, _, rfl, rfl, rfl, rfl⟩
    rfl
  · rintro rfl
    have free (number : Nat) : '.' ∉ digits number := Text.Decimal.not_mem_digits number rfl
    exact ⟨_, _, ⟨rfl, free tip⟩, _, _, ⟨rfl, free branch⟩, _, rfl, _, rfl, _, rfl, rfl, rfl, rfl⟩

theorem osNumbers?_eq_some_iff :
    osNumbers? chars = some (release, tip, branch, branchbranch) ↔
      chars = joinOs release tip branch branchbranch := by
  unfold osNumbers? joinOs
  simp only [Option.bind_eq_bind, Option.bind_eq_some_iff, Prod.exists, Text.after?_eq_some_iff,
    Text.cutAt?_eq_some_iff, Text.Decimal.read?_eq_some_iff, branches?_eq_some_iff,
    Option.pure_def, Option.some.injEq, Prod.mk.injEq]
  constructor
  · rintro ⟨_, rfl, _, _, ⟨rfl, _⟩, _, rfl, _, _, _, rfl, rfl, rfl, rfl, rfl⟩
    rfl
  · rintro rfl
    exact ⟨_, rfl, _, _, ⟨rfl, Text.Decimal.not_mem_digits release rfl⟩, _, rfl, _, _, _, rfl,
      rfl, rfl, rfl, rfl⟩

theorem firmwareParts?_eq_some_iff {platform : String} {numbers : Nat × Nat × Nat × Nat} :
    firmwareParts? chars = some (platform.toList, numbers) ↔
      Named PlatformChar platform ∧ ∃ rest, osNumbers? rest = some numbers ∧
        chars = platform.toList ++ '-' :: ("firmware/".toList ++ rest) := by
  unfold firmwareParts?
  simp only [Option.bind_eq_bind, Option.bind_eq_some_iff, Prod.exists, Text.cutAt?_eq_some_iff,
    Text.after?_eq_some_iff, Option.guard_eq_some', Option.pure_def, Option.some.injEq,
    Prod.mk.injEq]
  constructor
  · rintro ⟨_, _, ⟨rfl, _⟩, rest, rfl, _, named, _, _, _, _, found, rfl, rfl⟩
    exact ⟨isName_platform_iff.mp named, rest, found, rfl⟩
  · rintro ⟨named, rest, found, rfl⟩
    have free : '-' ∉ platform.toList := named.free (by decide)
    exact ⟨_, _, ⟨rfl, free⟩, rest, rfl, (), isName_platform_iff.mpr named, _, _, _, _, found, rfl,
      rfl⟩

theorem faftParts?_eq_some_iff {company platform : String} :
    faftParts? chars = some (company.toList, platform.toList, tip, branch, branchbranch) ↔
      Named CompanyChar company ∧ Named PlatformChar platform ∧
        chars = company.toList ++ '_' ::
          (platform.toList ++ '.' :: joinBranches tip branch branchbranch) := by
  unfold faftParts?
  simp only [Option.bind_eq_bind, Option.bind_eq_some_iff, Prod.exists, Text.cutAt?_eq_some_iff,
    Option.guard_eq_some', branches?_eq_some_iff, Option.pure_def, Option.some.injEq,
    Prod.mk.injEq]
  constructor
  · rintro ⟨_, _, ⟨rfl, _⟩, _, _, ⟨rfl, _⟩, _, company, _, platform, _, _, _, rfl, rfl, rfl, rfl,
      rfl, rfl⟩
    exact ⟨isName_company_iff.mp company, isName_platform_iff.mp platform, rfl⟩
  · rintro ⟨company, platform, rfl⟩
    exact ⟨_, _, ⟨rfl, company.free (by decide)⟩, _, _, ⟨rfl, platform.free (by decide)⟩, (),
      isName_company_iff.mpr company, (), isName_platform_iff.mpr platform, _, _, _, rfl, rfl, rfl,
      rfl, rfl, rfl⟩

end Grammar

end Version

open Version

/-- The text of an operating-system version joins its numbers. -/
theorem OsVersion.toList_text (version : OsVersion) :
    version.text.toList = joinOs version.release.toNat version.tip.toNat version.branch.toNat
      version.branchbranch.toNat := by
  simp [text, joinOs, joinBranches, Text.Decimal.ofWord]

theorem FirmwareVersion.toList_text (version : FirmwareVersion) :
    version.text.toList =
      version.platform.toList ++ '-' :: ("firmware/".toList ++ version.build.text.toList) := by
  simp [text]

theorem FaftVersion.toList_text (version : FaftVersion) :
    version.text.toList = version.company.toList ++ '_' :: (version.platform.toList ++ '.' ::
      joinBranches version.tip.toNat version.branch.toNat version.branchbranch.toNat) := by
  simp [text, joinBranches, Text.Decimal.ofWord]

/-- Numbers make a version exactly when they are its numbers. -/
theorem OsVersion.ofNumbers?_eq_some_iff {release tip branch branchbranch : Nat}
    {version : OsVersion} :
    ofNumbers? (release, tip, branch, branchbranch) = some version ↔
      release = version.release.toNat ∧ tip = version.tip.toNat ∧
        branch = version.branch.toNat ∧ branchbranch = version.branchbranch.toNat := by
  simp only [ofNumbers?, Option.bind_eq_bind, Option.bind_eq_some_iff,
    Text.Decimal.word?_eq_some_iff, Option.pure_def, Option.some.injEq]
  constructor
  · rintro ⟨_, rfl, _, rfl, _, rfl, _, rfl, rfl⟩
    exact ⟨rfl, rfl, rfl, rfl⟩
  · rintro ⟨rfl, rfl, rfl, rfl⟩
    exact ⟨_, rfl, _, rfl, _, rfl, _, rfl, rfl⟩

/-- Characters make an operating-system version exactly when they are its text. -/
theorem OsVersion.bind_ofNumbers?_eq_some_iff {chars : List Char} {version : OsVersion} :
    (osNumbers? chars).bind ofNumbers? = some version ↔ chars = version.text.toList := by
  rw [toList_text]
  simp only [Option.bind_eq_some_iff, Prod.exists, osNumbers?_eq_some_iff, ofNumbers?_eq_some_iff]
  constructor
  · rintro ⟨_, _, _, _, matched, rfl, rfl, rfl, rfl⟩
    exact matched
  · intro matched
    exact ⟨_, _, _, _, matched, rfl, rfl, rfl, rfl⟩

/-- An operating-system version is read from its own text alone. -/
theorem OsVersion.parse?_eq_some_iff {given : String} {version : OsVersion} :
    parse? given = some version ↔ given = version.text := by
  rw [← String.toList_inj]
  exact bind_ofNumbers?_eq_some_iff

/-- A firmware bundle whose platform has a name is read from its own text alone. -/
theorem FirmwareVersion.parse?_eq_some_iff {given : String} {version : FirmwareVersion} :
    parse? given = some version ↔ given = version.text ∧ Named PlatformChar version.platform := by
  rw [← String.toList_inj, toList_text]
  simp only [parse?, Option.bind_eq_bind, Option.bind_eq_some_iff, Option.pure_def,
    Option.some.injEq]
  constructor
  · rintro ⟨⟨platform, numbers⟩, parts, build, found, rfl⟩
    rw [← String.toList_ofList (l := platform)] at parts
    obtain ⟨named, rest, matched, same⟩ := firmwareParts?_eq_some_iff.mp parts
    have spelled : rest = build.text.toList :=
      OsVersion.bind_ofNumbers?_eq_some_iff.mp (Option.bind_eq_some_iff.mpr ⟨_, matched, found⟩)
    exact ⟨same.trans (by rw [spelled]), named⟩
  · rintro ⟨same, named⟩
    obtain ⟨numbers, matched, found⟩ := Option.bind_eq_some_iff.mp
      (OsVersion.bind_ofNumbers?_eq_some_iff.mpr (rfl : version.build.text.toList = _))
    refine ⟨_, firmwareParts?_eq_some_iff.mpr ⟨named, _, matched, same⟩, _, found, ?_⟩
    rw [String.ofList_toList]

/-- Reported firmware whose company and platform have names is read from its own text alone. -/
theorem FaftVersion.parse?_eq_some_iff {given : String} {version : FaftVersion} :
    parse? given = some version ↔ given = version.text ∧ Named CompanyChar version.company ∧
      Named PlatformChar version.platform := by
  rw [← String.toList_inj, toList_text]
  simp only [parse?, Option.bind_eq_bind, Option.bind_eq_some_iff, Option.pure_def,
    Option.some.injEq, Text.Decimal.word?_eq_some_iff]
  constructor
  · rintro ⟨⟨company, platform, _, _, _⟩, parts, _, rfl, _, rfl, _, rfl, rfl⟩
    rw [← String.toList_ofList (l := company), ← String.toList_ofList (l := platform)] at parts
    obtain ⟨companyNamed, platformNamed, same⟩ := faftParts?_eq_some_iff.mp parts
    exact ⟨same, companyNamed, platformNamed⟩
  · rintro ⟨same, companyNamed, platformNamed⟩
    refine ⟨_, faftParts?_eq_some_iff.mpr ⟨companyNamed, platformNamed, same⟩, _, rfl, _, rfl, _,
      rfl, ?_⟩
    rw [String.ofList_toList, String.ofList_toList]

namespace Version

/-- A reader of versions accepts the texts that a writer gives to well-formed versions, and
no others. Reading what was written gives the version back, and what was read is written as
it was. -/
structure Inverse {α : Type} (read : String → Except Error α) (write : α → String)
    (formed : α → Prop) : Prop where
  accepts : ∀ text version, read text = .ok version ↔ text = write version ∧ formed version
  back : ∀ version, formed version → read (write version) = .ok version
  reproduces : ∀ text version, read text = .ok version → write version = text

/-- A reader accepts a text. -/
def Accepts {α : Type} (read : String → Except Error α) (text : String) : Prop :=
  ∃ version, read text = .ok version

/-- A reader that is made of a parser is inverse to a writer if the parser reads each
well-formed version from its own text alone. -/
theorem Inverse.of_parses {α : Type} {kind : String} {parse? : String → Option α}
    {write : α → String} {formed : α → Prop}
    (parses : ∀ text version, parse? text = some version ↔ text = write version ∧ formed version) :
    Inverse (fun text => orMalformed kind text (parse? text)) write formed := by
  have accepts : ∀ text version, orMalformed kind text (parse? text) = .ok version ↔
      text = write version ∧ formed version := fun text version =>
    orMalformed_eq_ok_iff.trans (parses text version)
  exact ⟨accepts, fun version good => (accepts _ _).mpr ⟨rfl, good⟩,
    fun text version found => ((accepts _ _).mp found).1.symm⟩

section Marks

theorem hyphen_mem_os (version : OsVersion) : '-' ∈ version.text.toList := by
  simp [OsVersion.toList_text, joinOs]

theorem slash_not_mem_os (version : OsVersion) : '/' ∉ version.text.toList := by
  have free (number : Nat) : '/' ∉ digits number := Text.Decimal.not_mem_digits number rfl
  simp [OsVersion.toList_text, joinOs, joinBranches, free]

theorem slash_mem_firmware (version : FirmwareVersion) : '/' ∈ version.text.toList := by
  simp [FirmwareVersion.toList_text]

theorem hyphen_mem_firmware (version : FirmwareVersion) : '-' ∈ version.text.toList := by
  simp [FirmwareVersion.toList_text]

theorem hyphen_not_mem_reported {company platform : String} (ofCompany : Named CompanyChar company)
    (ofPlatform : Named PlatformChar platform) (tip branch branchbranch : Nat) :
    '-' ∉ company.toList ++ '_' ::
      (platform.toList ++ '.' :: joinBranches tip branch branchbranch) := by
  have free (number : Nat) : '-' ∉ digits number := Text.Decimal.not_mem_digits number rfl
  have company' : '-' ∉ company.toList := ofCompany.free (by decide)
  have platform' : '-' ∉ platform.toList := ofPlatform.free (by decide)
  simp [joinBranches, free, company', platform']

theorem hyphen_not_mem_faft {version : FaftVersion} (company : Named CompanyChar version.company)
    (platform : Named PlatformChar version.platform) : '-' ∉ version.text.toList := by
  rw [FaftVersion.toList_text]
  exact hyphen_not_mem_reported company platform _ _ _

end Marks

/-- Each of the three readers of versions is inverse to the writer of its kind, and no text
is accepted by two of them. -/
theorem readers_inverse :
    Inverse readOs OsVersion.text (fun _ => True) ∧
    Inverse readFirmware FirmwareVersion.text (fun version => Named PlatformChar version.platform) ∧
    Inverse readFaft FaftVersion.text (fun version =>
      Named CompanyChar version.company ∧ Named PlatformChar version.platform) ∧
    ∀ text, ¬ (Accepts readOs text ∧ Accepts readFirmware text) ∧
      ¬ (Accepts readOs text ∧ Accepts readFaft text) ∧
      ¬ (Accepts readFirmware text ∧ Accepts readFaft text) := by
  have os : Inverse readOs OsVersion.text (fun _ => True) :=
    .of_parses fun _ _ => by rw [OsVersion.parse?_eq_some_iff, and_true]
  have firmware : Inverse readFirmware FirmwareVersion.text _ :=
    .of_parses fun _ _ => FirmwareVersion.parse?_eq_some_iff
  have faft : Inverse readFaft FaftVersion.text _ :=
    .of_parses fun _ _ => FaftVersion.parse?_eq_some_iff
  refine ⟨os, firmware, faft, fun text => ⟨?_, ?_, ?_⟩⟩
  · rintro ⟨⟨first, readFirst⟩, ⟨second, readSecond⟩⟩
    have slash := slash_mem_firmware second
    rw [firmware.reproduces _ _ readSecond, ← os.reproduces _ _ readFirst] at slash
    exact slash_not_mem_os first slash
  · rintro ⟨⟨first, readFirst⟩, ⟨second, readSecond⟩⟩
    have hyphen := hyphen_mem_os first
    obtain ⟨same, company, platform⟩ := (faft.accepts _ _).mp readSecond
    rw [os.reproduces _ _ readFirst, same] at hyphen
    exact hyphen_not_mem_faft company platform hyphen
  · rintro ⟨⟨first, readFirst⟩, ⟨second, readSecond⟩⟩
    have hyphen := hyphen_mem_firmware first
    obtain ⟨same, company, platform⟩ := (faft.accepts _ _).mp readSecond
    rw [firmware.reproduces _ _ readFirst, same] at hyphen
    exact hyphen_not_mem_faft company platform hyphen

end Version

end StableFleet
