import StableFleet.Text.Cut
import StableFleet.Version.Basic

/-!
# The grammars of versions

A text is matched against a grammar first, with numbers of any size; a version
is read from a match whose numbers all fit a word. The marks that separate the
parts occur in none of the parts before them, so a text matches in one way only.
-/

namespace StableFleet

namespace Version

/-- The letters, digits and underscores that make up the name of a platform. -/
def isPlatformChar (char : Char) : Bool := char.isAlphanum || char == '_'

/-- A name is one character or more of those allowed. -/
def isName (allowed : Char → Bool) (chars : List Char) : Bool :=
  !chars.isEmpty && chars.all allowed

/-- Three numerals joined by points. -/
def branches? (chars : List Char) : Option (Nat × Nat × Nat) := do
  let (tip, chars) ← Text.cutAt? '.' chars
  let (branch, branchbranch) ← Text.cutAt? '.' chars
  return (← Text.Decimal.read? tip, ← Text.Decimal.read? branch, ← Text.Decimal.read? branchbranch)

/-- The numbers of `R<release>-<tip>.<branch>.<branchbranch>`. -/
def osNumbers? (chars : List Char) : Option (Nat × Nat × Nat × Nat) := do
  let chars ← Text.after? ['R'] chars
  let (release, chars) ← Text.cutAt? '-' chars
  return (← Text.Decimal.read? release, ← branches? chars)

/-- The platform and the numbers of `<platform>-firmware/R<release>-…`. -/
def firmwareParts? (chars : List Char) : Option (List Char × Nat × Nat × Nat × Nat) := do
  let (platform, chars) ← Text.cutAt? '-' chars
  let chars ← Text.after? "firmware/".toList chars
  guard (isName isPlatformChar platform)
  return (platform, ← osNumbers? chars)

/-- The company, the platform and the numbers of `<company>_<platform>.<tip>.…`. -/
def faftParts? (chars : List Char) : Option (List Char × List Char × Nat × Nat × Nat) := do
  let (company, chars) ← Text.cutAt? '_' chars
  let (platform, chars) ← Text.cutAt? '.' chars
  guard (isName Char.isAlphanum company)
  guard (isName isPlatformChar platform)
  return (company, platform, ← branches? chars)

/-- Whether a text has the form of a firmware bundle or of reported firmware,
whatever the size of its numbers. -/
def looksLikeFirmware (text : String) : Bool :=
  (firmwareParts? text.toList).isSome || (faftParts? text.toList).isSome

end Version

open Text.Decimal (word?)

/-- The version with the given numbers, if they fit. -/
def OsVersion.ofNumbers? : Nat × Nat × Nat × Nat → Option OsVersion
  | (release, tip, branch, branchbranch) => do
    return ⟨← word? release, ← word? tip, ← word? branch, ← word? branchbranch⟩

/-- The operating-system version that a text spells. -/
def OsVersion.parse? (text : String) : Option OsVersion := do
  OsVersion.ofNumbers? (← Version.osNumbers? text.toList)

/-- The firmware bundle that a text spells. -/
def FirmwareVersion.parse? (text : String) : Option FirmwareVersion := do
  let (platform, numbers) ← Version.firmwareParts? text.toList
  return ⟨String.ofList platform, ← OsVersion.ofNumbers? numbers⟩

/-- The reported firmware that a text spells. -/
def FaftVersion.parse? (text : String) : Option FaftVersion := do
  let (company, platform, tip, branch, branchbranch) ← Version.faftParts? text.toList
  return ⟨String.ofList company, String.ofList platform,
    ← word? tip, ← word? branch, ← word? branchbranch⟩

end StableFleet
