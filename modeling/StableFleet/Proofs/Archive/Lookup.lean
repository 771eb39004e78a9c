import StableFleet.Archive.Reader

/-!
# Looking up the record of a build

A lookup first asks whether to stop. A record that is kept is the answer and
nothing else is asked for. A record that is not kept is downloaded once; the
reader counts the fetch, and keeps the record if the download and the reading of
its bytes succeed. This is all that a lookup can do.
-/

namespace StableFleet

/-- Reading bytes never fails as an operation that was told to stop. -/
theorem Metadata.parse_ne_cancelled [Json.Complaint] (buildTarget : String) (bytes : Bytes) :
    Metadata.parse buildTarget bytes ≠ .error .cancelled := by
  unfold Metadata.parse
  split
  · exact nofun
  · split
    · exact nofun
    · exact nofun

namespace ArchiveReader

/-- The answer to a lookup whose download was answered, and the reader it
leaves. -/
def afterDownload (reader : ArchiveReader) (buildTarget version : String)
    (answer : Except Error Bytes) : Except Error ModelFirmware × ArchiveReader :=
  match answer.bind (Metadata.parse buildTarget) with
  | .ok record => (.ok record,
      { reader with
        cache := reader.cache.insert buildTarget version record, fetches := reader.fetches + 1 })
  | .error error => (.error (reportFetch buildTarget version error),
      { reader with fetches := reader.fetches + 1 })

/-- The part of a lookup that comes once the operation may go on. -/
def lookUp (reader : ArchiveReader) (buildTarget version : String) :
    Flow (Except Error ModelFirmware × ArchiveReader) :=
  match reader.cache.get? buildTarget version with
  | some record => pure (.ok record, reader)
  | none => do
    let answer ← Flow.ask <| .download reader.backend
      (reader.metadataPath buildTarget version) (reader.downloadPath buildTarget version)
    return reader.afterDownload buildTarget version answer

/-- A lookup asks whether to stop, and then answers with what is kept or
downloads once. -/
theorem with_firmwareVersions (reader : ArchiveReader) (buildTarget version : String) :
    (firmwareVersions buildTarget version).with reader = (do
      if ← Flow.ask .stopped then return (.error .cancelled, reader)
      else reader.lookUp buildTarget version) := by
  change Program.ask Request.stopped _ = Program.ask Request.stopped _
  congr 1
  funext told
  cases told with
  | true => rfl
  | false =>
    cases kept : reader.cache.get? buildTarget version with
    | some record =>
      simp only [FirmwareCache.getOrFetch, lookUp, kept]
      rfl
    | none =>
      simp only [FirmwareCache.getOrFetch, lookUp, kept]
      change Program.ask _ _ = Program.ask _ _
      congr 1
      funext answer
      cases answer with
      | error error => rfl
      | ok bytes =>
        have counted {α : Type} (result : α) (fetches : Nat) :
            (StateT.pure result : StateT Nat Flow α) fetches = .done (result, fetches) := rfl
        have bound : (Except.ok bytes : Except Error Bytes).bind (Metadata.parse buildTarget) =
            Metadata.parse buildTarget bytes := rfl
        cases parsed : Metadata.parse buildTarget bytes with
        | error error =>
          simp only [afterDownload, bound, parsed, Program.andThen, pure, counted]
          rfl
        | ok record =>
          simp only [afterDownload, bound, parsed, Program.andThen, pure, counted]
          rfl

end ArchiveReader

end StableFleet
