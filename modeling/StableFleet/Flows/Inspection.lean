import StableFleet.Archive.Bundle
import StableFleet.Flows.Lab
import StableFleet.Validation.Deep
import StableFleet.Validation.Shallow

/-!
# Looking at manifests and archives

Flows that change nothing: a manifest is checked by itself and then against the
archive, the current manifest is shown in its canonical form, and the archive is
searched for a firmware bundle.
-/

namespace StableFleet

/-- Reads a manifest file and checks it by itself. -/
def Shallow.inspectFile (strict : Bool) (path : Path) : Attempt Manifest :=
  ExceptT.mk do
    match ← Flow.ask (.readFile path) with
    | .ok bytes => return Shallow.inspectBuffer strict bytes
    | .error reason => return .error (Shallow.unreadable reason)

/-- Reads a manifest file without checking it. -/
def Manifest.ofFile (path : Path) : Attempt Manifest := do
  Attempt.ofExcept (Manifest.decode (← Attempt.readFile path))

namespace Lab

/-- Reads the manifest of a source and checks it by itself. -/
def inspect (lab : Lab) (source : ManifestSource) (workdir : Path) : Attempt Manifest :=
  match source with
  | .file path => Shallow.inspectFile lab.config.strictOsModels path
  | .repository revision => do
    let (bytes, _) ← lab.readRepository revision workdir
    Attempt.ofExcept (Shallow.inspectBuffer lab.config.strictOsModels bytes)

/-- Checks a manifest, with or without letting known anomalies pass. -/
def validate (lab : Lab) (source : ManifestSource) (letsPass : Bool) : Attempt Report :=
  Attempt.withScratch fun workdir => do
    let manifest ← lab.inspect source workdir
    let reader ← Attempt.ofExcept (lab.reader workdir)
    let (found, _) ← Attempt.reading reader (Deep.validate manifest)
    let report := if letsPass then found.without lab.config.allowLists else found
    refuseAnomalies report
    return report

/-- Reads the bytes of the manifest of a source. -/
def readSource (lab : Lab) (source : ManifestSource) (workdir : Path) : Attempt Bytes :=
  match source with
  | .file path => Attempt.readFile path
  | .repository revision => do return (← lab.readRepository revision workdir).1

/-- The canonical bytes of the current manifest, or of its entries about one
model. -/
def dump (lab : Lab) (source : ManifestSource) (model : Option String) : Attempt Bytes :=
  Attempt.withScratch fun workdir => do
    let bytes ← lab.readSource source workdir
    let current ← Attempt.ofExcept (Manifest.decode bytes)
    return Manifest.encode <| match model with
      | some model => current.filterModel model
      | none => current

/-- Where the archive has a firmware bundle. -/
def locate (lab : Lab) (query : BundleQuery) : Attempt String :=
  Attempt.withScratch fun workdir => do
    let reader ← Attempt.ofExcept (lab.reader workdir)
    reader.locateBundle query

end Lab

end StableFleet
