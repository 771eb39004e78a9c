import StableFleet.Archive.Metadata

/-!
# Records that have been fetched

Records are kept by build target, and for each build target by version. A record
that is kept is never dropped; a fetch that fails leaves nothing behind.
-/

namespace StableFleet

/-- The records fetched so far. -/
structure FirmwareCache where
  records : Table (Table ModelFirmware) := Table.empty
  deriving DecidableEq

namespace FirmwareCache

/-- The cache without records. -/
def empty : FirmwareCache := {}

/-- The record of a build, if it is kept. -/
def get? (cache : FirmwareCache) (buildTarget version : String) : Option ModelFirmware :=
  (cache.records.get? buildTarget).bind fun versions => versions.get? version

/-- Keeps the record of a build. -/
def insert (cache : FirmwareCache) (buildTarget version : String) (record : ModelFirmware) :
    FirmwareCache :=
  ⟨cache.records.update buildTarget fun versions =>
    (versions.getD Table.empty).insert version record⟩

/-- The firmware of a model in a record that is kept. -/
def firmware? (cache : FirmwareCache) (buildTarget version model : String) : Option String :=
  (cache.get? buildTarget version).bind fun record => record.get? model

/-- Whether the record of a build is kept. -/
def contains (cache : FirmwareCache) (buildTarget version : String) : Bool :=
  (cache.get? buildTarget version).isSome

/-- How many records are kept. -/
def size (cache : FirmwareCache) : Nat :=
  (cache.records.values.map Table.size).foldr (· + ·) 0

/-- Whether no record is kept. -/
def isEmpty (cache : FirmwareCache) : Bool := cache.size == 0

/-- The record of a build, which is fetched when it is not kept, and kept when
fetching it succeeds. -/
def getOrFetch {m : Type → Type} [Monad m] (cache : FirmwareCache) (buildTarget version : String)
    (fetch : m (Except Error ModelFirmware)) : m (Except Error ModelFirmware × FirmwareCache) :=
  match cache.get? buildTarget version with
  | some record => pure (.ok record, cache)
  | none => do
    match ← fetch with
    | .ok record => return (.ok record, cache.insert buildTarget version record)
    | .error error => return (.error error, cache)

/-- Keeping a record changes what is kept for that build alone. -/
theorem get?_insert (cache : FirmwareCache) (buildTarget version : String)
    (record : ModelFirmware) (otherTarget otherVersion : String) :
    (cache.insert buildTarget version record).get? otherTarget otherVersion =
      if otherTarget = buildTarget ∧ otherVersion = version then some record
      else cache.get? otherTarget otherVersion := by
  by_cases target : otherTarget = buildTarget
  · subst target
    by_cases same : otherVersion = version
    · subst same
      simp [get?, insert, Table.update]
    · simp only [get?, insert, Table.update, Table.get?_insert, if_pos, Option.bind_some,
        if_neg same, true_and]
      cases cache.records.get? otherTarget <;> simp
  · simp [get?, insert, Table.update, target]

end FirmwareCache

end StableFleet
