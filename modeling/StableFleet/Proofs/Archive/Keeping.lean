import StableFleet.Proofs.Archive.Lookup
import StableFleet.Proofs.Archive.Session

/-!
# What a lookup leaves

In a session a lookup comes to one of three things: it is told to stop, it finds
the record that is kept, or it downloads. This is said once, with the answer, the
session that is left and the exchanges that were made.

Whatever a lookup comes to, the reader goes on as the same reader: it reads the same
archive, and it still keeps every record that it kept.
-/

namespace StableFleet

namespace ArchiveReader

/-- The request by which a reader downloads the record of a build. -/
def downloadOf (reader : ArchiveReader) (buildTarget version : String) : Request :=
  .download reader.backend (reader.metadataPath buildTarget version)
    (reader.downloadPath buildTarget version)

/-- A download of the record of a build, with its answer. -/
def downloadWith (reader : ArchiveReader) (buildTarget version : String)
    (answer : Except Error Bytes) : Exchange :=
  ⟨reader.downloadOf buildTarget version, answer⟩

/-- A later state of a reader: it reads the same archive in the same way, and keeps
every record that it kept before. -/
structure Continues (reader later : ArchiveReader) : Prop where
  backend : later.backend = reader.backend
  root : later.root = reader.root
  workdir : later.workdir = reader.workdir
  keeps : ∀ {buildTarget version record}, reader.cache.get? buildTarget version = some record →
    later.cache.get? buildTarget version = some record

theorem Continues.refl (reader : ArchiveReader) : reader.Continues reader :=
  ⟨rfl, rfl, rfl, id⟩

theorem Continues.trans {first second third : ArchiveReader} (before : first.Continues second)
    (after : second.Continues third) : first.Continues third :=
  ⟨after.backend.trans before.backend, after.root.trans before.root,
    after.workdir.trans before.workdir, fun kept => after.keeps (before.keeps kept)⟩

/-- A later state of a reader looks for records where the reader did. -/
theorem Continues.metadataPath {reader later : ArchiveReader} (continues : reader.Continues later)
    (buildTarget version : String) :
    later.metadataPath buildTarget version = reader.metadataPath buildTarget version := by
  rw [ArchiveReader.metadataPath, continues.root]
  rfl

/-- A later state of a reader downloads to where the reader did. -/
theorem Continues.downloadPath {reader later : ArchiveReader} (continues : reader.Continues later)
    (buildTarget version : String) :
    later.downloadPath buildTarget version = reader.downloadPath buildTarget version := by
  rw [ArchiveReader.downloadPath, continues.workdir]
  rfl

/-- A later state of a reader asks for what the reader asked for. -/
theorem Continues.downloadOf {reader later : ArchiveReader} (continues : reader.Continues later)
    (buildTarget version : String) :
    later.downloadOf buildTarget version = reader.downloadOf buildTarget version := by
  unfold ArchiveReader.downloadOf
  rw [continues.metadataPath, continues.backend, continues.downloadPath]

/-- A later state of a reader makes the downloads that the reader made. -/
theorem Continues.downloadWith {reader later : ArchiveReader} (continues : reader.Continues later)
    (buildTarget version : String) (answer : Except Error Bytes) :
    later.downloadWith buildTarget version answer =
      reader.downloadWith buildTarget version answer := by
  unfold ArchiveReader.downloadWith ArchiveReader.downloadOf
  rw [continues.metadataPath, continues.backend, continues.downloadPath]

/-- After a download that was due, the reader goes on: the record that it may keep now
was not kept before. -/
theorem continues_afterDownload {reader : ArchiveReader} {buildTarget version : String}
    (unkept : reader.cache.get? buildTarget version = none) (answer : Except Error Bytes) :
    reader.Continues (reader.afterDownload buildTarget version answer).2 := by
  unfold afterDownload
  cases answer.bind (Metadata.parse buildTarget) with
  | error error => exact ⟨rfl, rfl, rfl, id⟩
  | ok record =>
    refine ⟨rfl, rfl, rfl, ?_⟩
    intro otherTarget otherVersion other kept
    rw [FirmwareCache.get?_insert, if_neg]
    · exact kept
    · rintro ⟨rfl, rfl⟩
      rw [unkept] at kept
      cases kept

end ArchiveReader

namespace Reading

variable {σ α β : Type}

/-- The exchanges of a reading in a session. -/
def exchanges (host : Host σ) (reading : Reading α) (session : Session σ) : List Exchange :=
  Flow.exchanges host (reading.with session.reader) session.run

/-- The exchanges of one reading after another are those of the first and, if it
succeeds, those of the second in the session that the first has left. -/
theorem exchanges_bind (host : Host σ) (reading : Reading α) (after : α → Reading β)
    (session : Session σ) :
    (reading >>= after).exchanges host session = reading.exchanges host session ++
      match reading.perform host session with
      | (.ok result, left) => (after result).exchanges host left
      | (.error _, _) => [] := by
  have exchanged : Flow.exchanges host ((reading >>= after).with session.reader) session.run = _ :=
    Flow.exchanges_bind host (reading.with session.reader) _ session.run
  simp only [exchanges, exchanged, perform]
  cases (Flow.run host (reading.with session.reader) session.run).1.1 with
  | ok result => rfl
  | error error => rfl

/-- Passing over failures makes no exchange. -/
theorem exchanges_unlessStopped (host : Host σ) (reading : Reading α) (session : Session σ) :
    (ArchiveReader.unlessStopped reading).exchanges host session =
      reading.exchanges host session := by
  have exchanged : Flow.exchanges host ((ArchiveReader.unlessStopped reading).with session.reader)
      session.run = _ := Flow.exchanges_bind host (reading.with session.reader) _ session.run
  simp only [exchanges, exchanged]
  cases (Flow.run host (reading.with session.reader) session.run).1.1 with
  | ok result => exact List.append_nil _
  | error error => cases error <;> exact List.append_nil _

end Reading

/-- Letting a reader read makes the exchanges of the reading. -/
theorem Attempt.exchanges_reading {σ α : Type} (host : Host σ) (reading : Reading α)
    (reader : ArchiveReader) (run : Run σ) :
    (Attempt.reading reader reading).exchanges host run = reading.exchanges host ⟨reader, run⟩ := by
  have exchanged : (Attempt.reading reader reading).exchanges host run = _ :=
    Flow.exchanges_bind host (reading.with reader) _ run
  exact exchanged.trans (List.append_nil _)

namespace ArchiveReader

variable {σ : Type} {host : Host σ}

/-- A lookup is told to stop, or finds the record that is kept, or downloads. -/
theorem lookup_cases (host : Host σ) (session : Session σ) (buildTarget version : String) :
    (session.run.stopped = true ∧
      (firmwareVersions buildTarget version).perform host session = (.error .cancelled, session) ∧
      (firmwareVersions buildTarget version).exchanges host session = [⟨.stopped, true⟩]) ∨
    (∃ record, session.run.stopped = false ∧
      session.reader.cache.get? buildTarget version = some record ∧
      (firmwareVersions buildTarget version).perform host session = (.ok record, session) ∧
      (firmwareVersions buildTarget version).exchanges host session = [⟨.stopped, false⟩]) ∨
    (∃ answer run, session.run.stopped = false ∧
      session.reader.cache.get? buildTarget version = none ∧
      Run.serve host (session.reader.downloadOf buildTarget version) session.run = (answer, run) ∧
      (firmwareVersions buildTarget version).perform host session =
        ((session.reader.afterDownload buildTarget version answer).1,
          ⟨(session.reader.afterDownload buildTarget version answer).2, run⟩) ∧
      (firmwareVersions buildTarget version).exchanges host session =
        [⟨.stopped, false⟩, session.reader.downloadWith buildTarget version answer]) := by
  obtain ⟨reader, run⟩ := session
  rw [Reading.perform, Reading.exchanges, with_firmwareVersions]
  cases told : run.stopped with
  | true =>
    refine .inl ⟨rfl, ?_, ?_⟩
    · rw [Flow.run_bind, Flow.run_ask, Run.serve, told]
      rfl
    · rw [Flow.exchanges_bind, Flow.exchanges_ask, Flow.run_ask, Run.serve, told]
      rfl
  | false =>
    have looks : Flow.run host (do
          if ← Flow.ask .stopped then return (.error .cancelled, reader)
          else reader.lookUp buildTarget version) run =
        Flow.run host (reader.lookUp buildTarget version) run := by
      rw [Flow.run_bind, Flow.run_ask, Run.serve, told]
      rfl
    have asks : Flow.exchanges host (do
          if ← Flow.ask .stopped then return (.error .cancelled, reader)
          else reader.lookUp buildTarget version) run =
        ⟨.stopped, false⟩ :: Flow.exchanges host (reader.lookUp buildTarget version) run := by
      rw [Flow.exchanges_bind, Flow.exchanges_ask, Flow.run_ask, Run.serve, told]
      rfl
    rw [looks, asks]
    refine .inr ?_
    cases kept : reader.cache.get? buildTarget version with
    | some record =>
      refine .inl ⟨record, rfl, rfl, ?_, ?_⟩ <;> rw [lookUp, kept] <;> rfl
    | none =>
      refine .inr ⟨_, _, rfl, rfl, rfl, ?_, ?_⟩ <;> rw [lookUp, kept] <;> rfl

/-- A reader goes on after a lookup. -/
theorem continues_lookup (host : Host σ) (session : Session σ) (buildTarget version : String) :
    session.reader.Continues
      ((firmwareVersions buildTarget version).perform host session).2.reader := by
  rcases lookup_cases host session buildTarget version with
    ⟨_, looked, _⟩ | ⟨_, _, _, looked, _⟩ | ⟨answer, _, _, unkept, _, looked, _⟩
  · rw [looked]
    exact .refl _
  · rw [looked]
    exact .refl _
  · rw [looked]
    exact continues_afterDownload unkept answer

/-- The record that a lookup has found is kept from then on. -/
theorem kept_of_lookup {session left : Session σ} {buildTarget version : String}
    {record : ModelFirmware}
    (looked : (firmwareVersions buildTarget version).perform host session = (.ok record, left)) :
    left.reader.cache.get? buildTarget version = some record := by
  rcases lookup_cases host session buildTarget version with
    ⟨_, found, _⟩ | ⟨_, _, kept, found, _⟩ | ⟨answer, _, _, _, _, found, _⟩
  · cases looked.symm.trans found
  · cases looked.symm.trans found
    exact kept
  · obtain ⟨answered, rfl⟩ := Prod.mk.inj (looked.symm.trans found)
    unfold afterDownload at answered ⊢
    cases parsed : answer.bind (Metadata.parse buildTarget) with
    | error error =>
      rw [parsed] at answered
      cases answered
    | ok _ =>
      rw [parsed] at answered
      cases answered
      exact (FirmwareCache.get?_insert ..).trans (if_pos ⟨rfl, rfl⟩)

/-- A record that is kept is found without a download, unless the lookup is told to
stop. -/
theorem lookup_of_kept {session : Session σ} {buildTarget version : String}
    {record : ModelFirmware}
    (kept : session.reader.cache.get? buildTarget version = some record) :
    (firmwareVersions buildTarget version).exchanges host session =
        [⟨.stopped, session.run.stopped⟩] ∧
      ((firmwareVersions buildTarget version).perform host session =
          (.error .cancelled, session) ∨
        (firmwareVersions buildTarget version).perform host session = (.ok record, session)) := by
  rcases lookup_cases host session buildTarget version with
    ⟨told, found, asked⟩ | ⟨other, untold, same, found, asked⟩ | ⟨_, _, _, unkept, _⟩
  · exact ⟨by rw [asked, told], .inl found⟩
  · cases kept.symm.trans same
    exact ⟨by rw [asked, untold], .inr found⟩
  · cases kept.symm.trans unkept

/-- A lookup of the firmware of a model looks up the record of the build and finds
the model in it. -/
theorem perform_firmwareVersion (host : Host σ) (session : Session σ)
    (buildTarget model version : String) :
    (firmwareVersion buildTarget model version).perform host session =
      (((firmwareVersions buildTarget version).perform host session).1.bind fun record =>
          ((record.get? model).elim (.error (.failedToLookup buildTarget model)) .ok),
        ((firmwareVersions buildTarget version).perform host session).2) := by
  rw [firmwareVersion, Reading.perform_bind]
  cases (firmwareVersions buildTarget version).perform host session with
  | mk answer left =>
    cases answer with
    | error error => rfl
    | ok record =>
      simp only [Except.bind]
      cases record.get? model with
      | none => rfl
      | some firmware => rfl

/-- Finding a model in a record makes no exchange. -/
theorem exchanges_firmwareVersion (host : Host σ) (session : Session σ)
    (buildTarget model version : String) :
    (firmwareVersion buildTarget model version).exchanges host session =
      (firmwareVersions buildTarget version).exchanges host session := by
  rw [firmwareVersion, Reading.exchanges_bind]
  cases (firmwareVersions buildTarget version).perform host session with
  | mk answer left =>
    cases answer with
    | error error => exact List.append_nil _
    | ok record =>
      cases named : record.get? model with
      | none =>
        simp only [named]
        exact List.append_nil _
      | some firmware =>
        simp only [named]
        exact List.append_nil _

end ArchiveReader

end StableFleet
