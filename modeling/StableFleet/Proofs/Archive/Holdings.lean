import StableFleet.Proofs.Archive.Keeping
import StableFleet.Proofs.Flow.Shelf

/-!
# Archives that stay as they are

The holdings of an archive say what every place of it has: the bytes that can be
downloaded from there, or the failure of the download. A host serves holdings when
it answers every download from them, at any time.

Every reader of such an archive that is faithful to it, as one that has kept nothing
is, finds the same record of a build, however often and in whatever order records
are looked up: the one that can be read from the bytes at the place of the build. It
stays faithful.
-/

namespace StableFleet

/-- What is at each place of an archive. -/
abbrev Holdings := String → Except Error Bytes

/-- A host answers the downloads from one kind of archive with what is at the place
that is asked for. -/
def Host.Serves {σ : Type} (host : Host σ) (backend : Backend) (holdings : Holdings) : Prop :=
  ∀ remote target state,
    (host.reply (.download backend remote target) state).answer = holdings remote

/-- A host never tells an operation to stop when it answers a download from one kind
of archive. -/
def Host.Calm {σ : Type} (host : Host σ) (backend : Backend) : Prop :=
  ∀ remote target state,
    (host.reply (.download backend remote target) state).stops = false

/-- A host that serves holdings answers every download of a run from them. -/
theorem Host.Serves.answer {σ α : Type} {host : Host σ} {backend : Backend} {holdings : Holdings}
    (serves : host.Serves backend holdings) {flow : Flow α} {run : Run σ} {remote : String}
    {target : Path} {answer : Except Error Bytes}
    (present : ⟨.download backend remote target, answer⟩ ∈ Flow.exchanges host flow run) :
    answer = holdings remote := by
  induction flow generalizing run with
  | done result => cases present
  | ask request next inductionHypothesis =>
    rcases List.mem_cons.mp present with here | later
    · cases here
      exact serves _ _ _
    · exact inductionHypothesis _ later

namespace ArchiveReader

/-- The record of a build in an archive with some holdings. -/
def recordIn (reader : ArchiveReader) (holdings : Holdings) (buildTarget version : String) :
    Except Error ModelFirmware :=
  (holdings (reader.metadataPath buildTarget version)).bind (Metadata.parse buildTarget)

/-- The firmware that an archive with some holdings has for a model of a build. -/
def firmwareIn (reader : ArchiveReader) (holdings : Holdings) (buildTarget version model : String) :
    Option String :=
  (reader.recordIn holdings buildTarget version).toOption.bind (·.get? model)

/-- Every record that the reader has kept is the one in the archive. -/
def Faithful (reader : ArchiveReader) (holdings : Holdings) : Prop :=
  ∀ {buildTarget version record}, reader.cache.get? buildTarget version = some record →
    reader.recordIn holdings buildTarget version = .ok record

/-- A reader that has kept nothing is faithful. -/
theorem faithful_of_empty {reader : ArchiveReader} (fresh : reader.cache = .empty)
    (holdings : Holdings) : reader.Faithful holdings := by
  intro buildTarget version record kept
  rw [fresh] at kept
  cases kept

/-- A later state of a reader finds the same records. -/
theorem Continues.recordIn {reader later : ArchiveReader} (continues : reader.Continues later)
    (holdings : Holdings) (buildTarget version : String) :
    later.recordIn holdings buildTarget version = reader.recordIn holdings buildTarget version := by
  rw [ArchiveReader.recordIn, continues.metadataPath]
  rfl

/-- A failed fetch is reported as being told to stop only if the fetch was. -/
theorem reportFetch_eq_cancelled_iff {buildTarget version : String} {error : Error} :
    reportFetch buildTarget version error = .cancelled ↔ error = .cancelled := by
  cases error <;> simp [reportFetch]

variable {σ : Type} {host : Host σ} {holdings : Holdings} {session : Session σ}

/-- A reader stays faithful when it goes on after the answer of the archive. -/
theorem faithful_afterDownload {reader : ArchiveReader} (faithful : reader.Faithful holdings)
    {buildTarget version : String}
    (unkept : reader.cache.get? buildTarget version = none) :
    (reader.afterDownload buildTarget version
      (holdings (reader.metadataPath buildTarget version))).2.Faithful holdings := by
  intro otherTarget otherVersion other kept
  rw [(continues_afterDownload unkept _).recordIn]
  unfold afterDownload at kept
  cases parsed : (holdings (reader.metadataPath buildTarget version)).bind
      (Metadata.parse buildTarget) with
  | error error =>
    rw [parsed] at kept
    exact faithful kept
  | ok record =>
    rw [parsed, FirmwareCache.get?_insert] at kept
    split at kept
    · next same =>
      obtain ⟨rfl, rfl⟩ := same
      rw [recordIn, parsed]
      exact congrArg Except.ok (Option.some.inj kept)
    · exact faithful kept

/-- A lookup whose download has what the archive holds finds the record of the build, or
reports why there is none, unless it is told to stop; and the reader stays faithful. -/
theorem lookup_answers {buildTarget version : String}
    (answers : ∀ state, (host.reply (session.reader.downloadOf buildTarget version) state).answer =
      holdings (session.reader.metadataPath buildTarget version))
    (faithful : session.reader.Faithful holdings) :
    (session.run.stopped = false →
      ((firmwareVersions buildTarget version).perform host session).1 =
        (session.reader.recordIn holdings buildTarget version).mapError
          (reportFetch buildTarget version)) ∧
      (session.run.stopped = true →
        ((firmwareVersions buildTarget version).perform host session).1 = .error .cancelled) ∧
      ((firmwareVersions buildTarget version).perform host session).2.reader.Faithful holdings := by
  rcases lookup_cases host session buildTarget version with
    ⟨told, looked, _⟩ | ⟨record, untold, kept, looked, _⟩ |
    ⟨answer, run, untold, unkept, served, looked, _⟩
  · rw [looked, told]
    exact ⟨nofun, fun _ => rfl, faithful⟩
  · rw [looked, untold, faithful kept]
    exact ⟨fun _ => rfl, nofun, faithful⟩
  · have answered : answer = holdings (session.reader.metadataPath buildTarget version) := by
      rw [← answers]
      exact (congrArg Prod.fst served).symm
    rw [looked, untold, answered]
    refine ⟨fun _ => ?_, nofun, faithful_afterDownload faithful unkept⟩
    rw [recordIn]
    unfold afterDownload
    cases (holdings (session.reader.metadataPath buildTarget version)).bind
      (Metadata.parse buildTarget) with
    | error error => rfl
    | ok record => rfl

/-- A lookup in an archive that stays as it is finds the record of the build, or
reports why there is none, unless it is told to stop; and the reader stays faithful. -/
theorem lookup_serves (serves : host.Serves session.reader.backend holdings)
    (faithful : session.reader.Faithful holdings) (buildTarget version : String) :
    (session.run.stopped = false →
      ((firmwareVersions buildTarget version).perform host session).1 =
        (session.reader.recordIn holdings buildTarget version).mapError
          (reportFetch buildTarget version)) ∧
      (session.run.stopped = true →
        ((firmwareVersions buildTarget version).perform host session).1 = .error .cancelled) ∧
      ((firmwareVersions buildTarget version).perform host session).2.reader.Faithful holdings :=
  lookup_answers (fun _ => serves _ _ _) faithful

/-- A lookup that is not told to stop finds the record that is in the archive. -/
theorem recordIn_of_lookup (serves : host.Serves session.reader.backend holdings)
    (faithful : session.reader.Faithful holdings) {left : Session σ} {buildTarget version : String}
    {record : ModelFirmware}
    (looked : (firmwareVersions buildTarget version).perform host session = (.ok record, left)) :
    session.reader.recordIn holdings buildTarget version = .ok record := by
  obtain ⟨untold, told, _⟩ := lookup_serves serves faithful buildTarget version
  rw [looked] at untold told
  cases stopped : session.run.stopped with
  | true => cases told stopped
  | false =>
    have found := untold stopped
    cases recorded : session.reader.recordIn holdings buildTarget version with
    | error error =>
      rw [recorded] at found
      cases found
    | ok other =>
      rw [recorded] at found
      cases found
      rfl

/-- An operation that may go on before a lookup may go on after it when the download does
not tell it to stop. -/
theorem untold_lookup {buildTarget version : String}
    (calm : ∀ state,
      (host.reply (session.reader.downloadOf buildTarget version) state).stops = false)
    (untold : session.run.stopped = false) :
    ((firmwareVersions buildTarget version).perform host session).2.run.stopped = false := by
  rcases lookup_cases host session buildTarget version with
    ⟨told, _⟩ | ⟨_, _, _, looked, _⟩ | ⟨_, run, _, _, served, looked, _⟩
  · rw [untold] at told
    cases told
  · rw [looked]
    exact untold
  · have stops : run.stopped = (session.run.stopped ||
        (host.reply (session.reader.downloadOf buildTarget version) session.run.state).stops) :=
      (congrArg (·.2.stopped) served).symm
    rw [looked, stops, untold, Bool.false_or]
    exact calm _

/-- In a calm archive, an operation that may go on before a lookup may go on after
it. -/
theorem calm_lookup (calm : host.Calm session.reader.backend)
    (untold : session.run.stopped = false) (buildTarget version : String) :
    ((firmwareVersions buildTarget version).perform host session).2.run.stopped = false :=
  untold_lookup (fun _ => calm _ _ _) untold

end ArchiveReader

/-- What a lookup keeps up from one session to the next: the reader goes on, it stays
faithful to an archive that stays as it is, and in a calm archive the operation is not
told to stop. -/
structure Session.GoesOn {σ : Type} (host : Host σ) (session later : Session σ) : Prop where
  continues : session.reader.Continues later.reader
  faithful : ∀ {holdings : Holdings}, host.Serves session.reader.backend holdings →
    session.reader.Faithful holdings → later.reader.Faithful holdings
  calm : host.Calm session.reader.backend → session.run.stopped = false →
    later.run.stopped = false

namespace Session

variable {σ : Type} {host : Host σ}

theorem GoesOn.refl (session : Session σ) : session.GoesOn host session :=
  ⟨.refl _, fun _ faithful => faithful, fun _ untold => untold⟩

theorem GoesOn.trans {first second third : Session σ} (before : first.GoesOn host second)
    (after : second.GoesOn host third) : first.GoesOn host third := by
  have same := before.continues.backend
  refine ⟨before.continues.trans after.continues, fun serves faithful => ?_,
    fun calm untold => ?_⟩
  · exact after.faithful (same ▸ serves) (before.faithful serves faithful)
  · exact after.calm (same ▸ calm) (before.calm calm untold)

/-- A session goes on after a lookup. -/
theorem goesOn_lookup (host : Host σ) (session : Session σ) (buildTarget version : String) :
    session.GoesOn host
      ((ArchiveReader.firmwareVersions buildTarget version).perform host session).2 :=
  ⟨ArchiveReader.continues_lookup host session buildTarget version,
    fun serves faithful =>
      (ArchiveReader.lookup_serves serves faithful buildTarget version).2.2,
    fun calm untold => ArchiveReader.calm_lookup calm untold buildTarget version⟩

end Session

/-- A shelf serves the objects that are on it, and never tells an operation to stop. -/
theorem Shelf.serves (shelf : Shelf) (backend : Backend) :
    shelf.host.Serves backend shelf.object := fun _ _ _ => rfl

theorem Shelf.calm (shelf : Shelf) (backend : Backend) : shelf.host.Calm backend :=
  fun _ _ _ => rfl

/-- A reader that has kept nothing, in a run that was not told to stop. -/
def Session.fresh : Session Unit :=
  ⟨ArchiveReader.new .objectStore "gs://archive" ⟨"/scratch"⟩, Run.start ()⟩

end StableFleet
