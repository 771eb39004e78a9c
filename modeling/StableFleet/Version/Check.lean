import StableFleet.Error
import StableFleet.Text.Quoted
import StableFleet.Version.Grammar

/-!
# Checking versions

Reading a version from a text, or saying which kind of version the text is not.
-/

namespace StableFleet

namespace Version

/-- The failure of a text that is no version of a kind. -/
def malformed (kind text : String) : Error :=
  .invalidFormat ("invalid " ++ kind ++ " version " ++ Text.Quoted.quote text)

/-- A version, or the failure of a text that has none. -/
def orMalformed {α : Type} (kind text : String) : Option α → Except Error α
  | some version => .ok version
  | none => .error (malformed kind text)

/-- A version that a text has is what is read. -/
theorem orMalformed_eq_ok_iff {α : Type} {kind text : String} {found : Option α} {version : α} :
    orMalformed kind text found = .ok version ↔ found = some version := by
  cases found <;> simp [orMalformed]

/-- The operating-system version that a text spells. -/
def readOs (text : String) : Except Error OsVersion :=
  orMalformed "OS" text (OsVersion.parse? text)

/-- The firmware bundle that a text spells. -/
def readFirmware (text : String) : Except Error FirmwareVersion :=
  orMalformed "firmware" text (FirmwareVersion.parse? text)

/-- The reported firmware that a text spells. -/
def readFaft (text : String) : Except Error FaftVersion :=
  orMalformed "faft" text (FaftVersion.parse? text)

/-- Admits a text that has the form of a firmware bundle or of reported
firmware. -/
def checkFirmwareLike (text : String) : Except Error Unit :=
  if looksLikeFirmware text then .ok () else .error (malformed "firmware" text)

/-- How two texts compare as operating-system versions. -/
def compareOs (left right : String) : Except Error Ordering := do
  return compare (← readOs left) (← readOs right)

/-- Operating-system versions in ascending order. -/
def sortOs (versions : List OsVersion) : List OsVersion :=
  versions.mergeSort fun left right => (compare left right).isLE

end Version

end StableFleet
