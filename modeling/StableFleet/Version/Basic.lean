import StableFleet.Text.Decimal

/-!
# Versions

Three flavours of version are recorded for a device. An operating-system
version names a release and a position in three nested branches. A firmware
bundle adds the platform it was built for. Firmware as a device reports it names
a company and a platform and no release. Each number is a word of 64 bits, and
each version has one text.
-/

namespace StableFleet

/-- A version of the operating system: `R77-12371.52.22`. -/
structure OsVersion where
  release : UInt64
  tip : UInt64
  branch : UInt64
  branchbranch : UInt64
  deriving Repr, DecidableEq

/-- A firmware bundle: `nami-firmware/R77-12371.52.0`. -/
structure FirmwareVersion where
  platform : String
  build : OsVersion
  deriving Repr, DecidableEq

/-- Firmware as a device reports it: `Google_Nami.8438.184.0`. -/
structure FaftVersion where
  company : String
  platform : String
  tip : UInt64
  branch : UInt64
  branchbranch : UInt64
  deriving Repr, DecidableEq

namespace OsVersion

/-- The one text of a version. -/
def text (version : OsVersion) : String :=
  "R" ++ Text.Decimal.ofWord version.release ++ "-" ++ Text.Decimal.ofWord version.tip ++ "." ++
    Text.Decimal.ofWord version.branch ++ "." ++ Text.Decimal.ofWord version.branchbranch

/-- Versions are ordered by release, then by tip, branch and branch of branch. -/
instance : Ord OsVersion where
  compare left right :=
    (compare left.release right.release).then <|
      (compare left.tip right.tip).then <|
        (compare left.branch right.branch).then <|
          compare left.branchbranch right.branchbranch

/-- Two versions compare as equal exactly when they are the same version. -/
theorem compare_eq_iff {left right : OsVersion} : compare left right = .eq ↔ left = right := by
  have word (first second : UInt64) : compare first second = .eq ↔ first = second :=
    Std.LawfulEqOrd.compare_eq_iff_eq
  have parts : compare left right =
      (compare left.release right.release).then ((compare left.tip right.tip).then
        ((compare left.branch right.branch).then
          (compare left.branchbranch right.branchbranch))) := rfl
  rw [parts]
  cases left
  cases right
  simp only [Ordering.then_eq_eq, word, OsVersion.mk.injEq]

/-- The greater of two versions; the first of them when they are equal. -/
def latest (left right : OsVersion) : OsVersion :=
  if compare left right = .lt then right else left

end OsVersion

/-- The one text of a firmware bundle. -/
def FirmwareVersion.text (version : FirmwareVersion) : String :=
  version.platform ++ "-firmware/" ++ version.build.text

/-- The one text of reported firmware. -/
def FaftVersion.text (version : FaftVersion) : String :=
  version.company ++ "_" ++ version.platform ++ "." ++ Text.Decimal.ofWord version.tip ++ "." ++
    Text.Decimal.ofWord version.branch ++ "." ++ Text.Decimal.ofWord version.branchbranch

end StableFleet
