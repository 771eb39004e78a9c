import StableFleet.Flows.Update
import StableFleet.Proofs.Archive.Enquiry
import StableFleet.Proofs.Archive.Holdings
import StableFleet.Proofs.Archive.Source

/-!
# Keeping records is not noticed

In an archive that stays as it is, a record that is kept is the record that another
download would bring. So it makes no difference to a reconciliation, or to the check of a
manifest, whether records are kept or are downloaded each time, nor which records were
kept before.

The two ways of having records are compared step by step. The reader that keeps records
goes on from session to session in which it is faithful to the archive; the other may be
in any session of its own. A step has answers that are alike on both sides, and leaves
sessions from which the next step can be compared.
-/

namespace StableFleet

/-- The archive that a reader reads stays as it is: each download of a record has the
answer that the holdings say, whenever it is made, which is never that the operation was
told to stop; and the operation is not told to stop meanwhile. -/
structure Host.Static {σ : Type} (host : Host σ) (reader : ArchiveReader) (holdings : Holdings) :
    Prop where
  answers : ∀ buildTarget version state,
    (host.reply (.download reader.backend (reader.metadataPath buildTarget version)
      (reader.downloadPath buildTarget version)) state).answer =
      holdings (reader.metadataPath buildTarget version)
  uncancelled : ∀ buildTarget version,
    holdings (reader.metadataPath buildTarget version) ≠ .error .cancelled
  calm : ∀ buildTarget version state,
    (host.reply (.download reader.backend (reader.metadataPath buildTarget version)
      (reader.downloadPath buildTarget version)) state).stops = false

/-- The states that a reader comes to by being asked questions, each in a run of its
own. -/
inductive ArchiveReader.Reaches {σ : Type} (host : Host σ) (start : ArchiveReader) :
    ArchiveReader → Prop
  | start : Reaches host start start
  | asked {reader : ArchiveReader} (reached : Reaches host start reader) (question : Question)
      (run : Run σ) : Reaches host start (Enquiry.left host ⟨question, ⟨reader, run⟩⟩).reader

variable {σ α β γ δ : Type} {host : Host σ} {start : ArchiveReader} {holdings : Holdings}

/-- An archive that stays as it is does so for a later state of its reader. -/
theorem Host.Static.later (static : host.Static start holdings) {reader : ArchiveReader}
    (continues : start.Continues reader) : host.Static reader holdings := by
  refine ⟨?_, ?_, ?_⟩
  · intro buildTarget version state
    rw [continues.backend, continues.metadataPath, continues.downloadPath]
    exact static.answers buildTarget version state
  · intro buildTarget version
    rw [continues.metadataPath]
    exact static.uncancelled buildTarget version
  · intro buildTarget version state
    rw [continues.backend, continues.metadataPath, continues.downloadPath]
    exact static.calm buildTarget version state

/-- A session of a reader that has kept what the archive has, of an operation that may go
on. -/
structure Session.Ready (start : ArchiveReader) (holdings : Holdings) (session : Session σ) :
    Prop where
  continues : start.Continues session.reader
  faithful : session.reader.Faithful holdings
  untold : session.run.stopped = false

/-- Two answers are alike: they have the same result, or each is a failure, but not that
the operation was told to stop. -/
inductive Alike : Except Error α → Except Error α → Prop
  | found (result : α) : Alike (.ok result) (.ok result)
  | failed {kept plain : Error} (keptGoesOn : kept ≠ .cancelled)
      (plainGoesOn : plain ≠ .cancelled) : Alike (.error kept) (.error plain)

/-- Answers that are alike are not that the operation was told to stop. -/
theorem Alike.goOn {kept plain : Except Error α} (alike : Alike kept plain) :
    kept ≠ .error .cancelled ∧ plain ≠ .error .cancelled := by
  cases alike with
  | found result => exact ⟨nofun, nofun⟩
  | failed keptGoesOn plainGoesOn =>
    exact ⟨keptGoesOn ∘ Except.error.inj, plainGoesOn ∘ Except.error.inj⟩

/-- Two readings both succeed, with results that are related. -/
def Both (related : α → β → Prop) (kept : Except Error α) (plain : Except Error β) : Prop :=
  ∃ first second, kept = .ok first ∧ plain = .ok second ∧ related first second

/-- A reading with a reader that keeps records and one with records that are downloaded
each time have answers that match, and leave sessions in which the next readings can be
compared. -/
def Reading.Match (host : Host σ) (start : ArchiveReader) (holdings : Holdings)
    (matching : Except Error α → Except Error β → Prop) (kept : Reading α) (plain : Reading β) :
    Prop :=
  ∀ session other : Session σ, session.Ready start holdings → start.Continues other.reader →
    matching (kept.perform host session).1 (plain.perform host other).1 ∧
      (kept.perform host session).2.Ready start holdings ∧
      start.Continues (plain.perform host other).2.reader

namespace Reading.Match

/-- Results that are related match. -/
theorem pure {related : α → β → Prop} {first : α} {second : β} (holds : related first second) :
    Reading.Match host start holdings (Both related) (Pure.pure first) (Pure.pure second) :=
  fun _ _ ready continues => ⟨⟨first, second, rfl, rfl, holds⟩, ready, continues⟩

/-- One reading after another matches when the first ones do, and those that come after
related results. -/
theorem bind {related : α → β → Prop} {matching : Except Error γ → Except Error δ → Prop}
    {kept : Reading α} {plain : Reading β} {after : α → Reading γ} {later : β → Reading δ}
    (first : Reading.Match host start holdings (Both related) kept plain)
    (second : ∀ one other, related one other →
      Reading.Match host start holdings matching (after one) (later other)) :
    Reading.Match host start holdings matching (kept >>= after) (plain >>= later) := by
  intro session other ready continues
  obtain ⟨⟨one, same, keptOne, plainOne, holds⟩, left, leftOther⟩ :=
    first session other ready continues
  rw [Reading.perform_bind, Reading.perform_bind]
  cases keptDone : kept.perform host session with
  | mk answer middle =>
    cases plainDone : plain.perform host other with
    | mk otherAnswer otherMiddle =>
      rw [keptDone] at keptOne left
      rw [plainDone] at plainOne leftOther
      obtain rfl : answer = .ok one := keptOne
      obtain rfl : otherAnswer = .ok same := plainOne
      exact second one same holds middle otherMiddle left leftOther

/-- Two readings with answers that are alike both succeed when failures are passed over,
and their answers are the results. -/
theorem unlessStopped {kept plain : Reading α}
    (alike : Reading.Match host start holdings Alike kept plain) :
    Reading.Match host start holdings (Both Alike) (ArchiveReader.unlessStopped kept)
      (ArchiveReader.unlessStopped plain) := by
  intro session other ready continues
  obtain ⟨same, left, leftOther⟩ := alike session other ready continues
  rw [Reading.perform_unlessStopped_of_ne rfl same.goOn.1,
    Reading.perform_unlessStopped_of_ne rfl same.goOn.2]
  exact ⟨⟨_, _, rfl, rfl, same⟩, left, leftOther⟩

end Reading.Match

namespace RecordSource

/-- Two sources match when they have answers that are alike to every question. -/
def Match (host : Host σ) (start : ArchiveReader) (holdings : Holdings)
    (kept plain : RecordSource) : Prop :=
  ∀ buildTarget version,
    Reading.Match host start holdings Alike (kept buildTarget version) (plain buildTarget version)

namespace Match

variable {kept plain : RecordSource} (sources : Match host start holdings kept plain)

include sources

/-- The firmware of a model is the same by sources that match. -/
theorem firmware (buildTarget model version : String) :
    Reading.Match host start holdings Alike (kept.firmware buildTarget model version)
      (plain.firmware buildTarget model version) := by
  intro session other ready continues
  obtain ⟨same, left, leftOther⟩ :=
    sources buildTarget version session other ready continues
  rw [RecordSource.firmware, RecordSource.firmware, Reading.perform_bind, Reading.perform_bind]
  cases keptDone : (kept buildTarget version).perform host session with
  | mk answer middle =>
    cases plainDone : (plain buildTarget version).perform host other with
    | mk otherAnswer otherMiddle =>
      rw [keptDone] at same left
      rw [plainDone] at same leftOther
      dsimp only at same
      cases same with
      | failed keptGoesOn plainGoesOn =>
        exact ⟨.failed keptGoesOn plainGoesOn, left, leftOther⟩
      | found record =>
        dsimp only
        cases record.get? model with
        | none => exact ⟨.failed nofun nofun, left, leftOther⟩
        | some firmware => exact ⟨.found firmware, left, leftOther⟩

/-- Scanning the versions of a board comes to the same by sources that match. -/
theorem scanFrom (buildTarget : String) (records : Table ModelFirmware) (versions : List String) :
    Reading.Match host start holdings (Both Eq) (kept.scanFrom buildTarget records versions)
      (plain.scanFrom buildTarget records versions) := by
  induction versions generalizing records with
  | nil => exact .pure rfl
  | cons version versions inductionHypothesis =>
    refine .bind (.unlessStopped (sources buildTarget version)) ?_
    rintro _ _ (record | _)
    · exact inductionHypothesis _
    · exact inductionHypothesis _

/-- Scanning boards comes to the same by sources that match. -/
theorem scanBoards (boards : List (String × BoardVersions)) :
    Reading.Match host start holdings (Both Eq) (kept.scanBoards boards)
      (plain.scanBoards boards) := by
  induction boards with
  | nil => exact .pure rfl
  | cons board boards inductionHypothesis =>
    simp only [RecordSource.scanBoards]
    split
    · exact inductionHypothesis
    · refine .bind (sources.scanFrom _ _ _) ?_
      rintro records _ rfl
      refine .bind inductionHypothesis ?_
      rintro scans _ rfl
      exact .pure rfl

/-- A reconciliation comes to the same by sources that match. -/
theorem reconcile (old : Manifest) (releases : List BoardRelease) :
    Reading.Match host start holdings (Both Eq) (kept.reconcile old releases)
      (plain.reconcile old releases) := by
  refine .bind (sources.scanBoards _) ?_
  rintro scans _ rfl
  exact .pure rfl

/-- The check of an operating-system entry comes to the same by sources that match. -/
theorem checkOs (progress : Deep.Progress) (entry : VersionEntry) :
    Reading.Match host start holdings (Both Eq) (kept.checkOs progress entry)
      (plain.checkOs progress entry) := by
  unfold RecordSource.checkOs
  split
  · exact .pure rfl
  · refine .bind (.unlessStopped (sources _ _)) ?_
    rintro _ _ (record | _)
    · exact .pure rfl
    · exact .pure rfl

/-- The check of a firmware entry comes to the same by sources that match. -/
theorem checkFirmware (progress : Deep.Progress) (entry : VersionEntry) :
    Reading.Match host start holdings (Both Eq) (kept.checkFirmware progress entry)
      (plain.checkFirmware progress entry) := by
  unfold RecordSource.checkFirmware
  dsimp only
  split
  · exact .pure rfl
  · split
    · exact .pure rfl
    · refine .bind (.unlessStopped (sources.firmware _ _ _)) ?_
      rintro _ _ (firmware | _)
      · dsimp only
        split
        · exact .pure rfl
        · exact .pure rfl
      · exact .pure rfl

omit sources in
/-- Checks of entries in turn come to the same when each check does. -/
theorem checkAll {check otherCheck : Deep.Progress → VersionEntry → Reading Deep.Progress}
    (each : ∀ progress entry, Reading.Match host start holdings (Both Eq) (check progress entry)
      (otherCheck progress entry)) (progress : Deep.Progress) (entries : List VersionEntry) :
    Reading.Match host start holdings (Both Eq) (Deep.checkAll check progress entries)
      (Deep.checkAll otherCheck progress entries) := by
  induction entries generalizing progress with
  | nil => exact .pure rfl
  | cons entry entries inductionHypothesis =>
    refine .bind (each progress entry) ?_
    rintro next _ rfl
    exact inductionHypothesis next

/-- The check of a manifest comes to the same by sources that match. -/
theorem validate (manifest : Manifest) :
    Reading.Match host start holdings (Both Eq) (kept.validate manifest)
      (plain.validate manifest) := by
  refine .bind (checkAll sources.checkOs _ _) ?_
  rintro progress _ rfl
  refine .bind (checkAll sources.checkFirmware _ _) ?_
  rintro finished _ rfl
  exact .pure rfl

end Match

end RecordSource

namespace ArchiveReader

/-- A record of an archive that stays as it is can be had, or cannot for a reason that is
not being told to stop. -/
theorem recordIn_ne_cancelled (static : host.Static start holdings) (buildTarget version : String) :
    start.recordIn holdings buildTarget version ≠ .error .cancelled := by
  unfold recordIn
  cases held : holdings (start.metadataPath buildTarget version) with
  | error error =>
    have uncancelled := static.uncancelled buildTarget version
    rw [held] at uncancelled
    exact fun same => uncancelled (congrArg _ (Except.error.inj same))
  | ok bytes => exact Metadata.parse_ne_cancelled buildTarget bytes

/-- A lookup in an archive that stays as it is comes to the record of the build, or to a
report why there is none, and the session that it leaves is as ready as before. -/
theorem ready_lookup (static : host.Static start holdings) {session : Session σ}
    (ready : session.Ready start holdings) (buildTarget version : String) :
    ((firmwareVersions buildTarget version).perform host session).1 =
        (start.recordIn holdings buildTarget version).mapError (reportFetch buildTarget version) ∧
      ((firmwareVersions buildTarget version).perform host session).2.Ready start holdings := by
  have here := static.later ready.continues
  obtain ⟨looked, _, faithful⟩ :=
    lookup_answers (here.answers buildTarget version) ready.faithful
  rw [looked ready.untold, ready.continues.recordIn]
  exact ⟨rfl, ready.continues.trans (continues_lookup host session buildTarget version), faithful,
    untold_lookup (here.calm buildTarget version) ready.untold⟩

/-- A lookup in an archive that stays as it is comes to what a plain download comes to:
the record that is kept is the one that would be downloaded. -/
theorem lookups_match (static : host.Static start holdings) :
    RecordSource.Match host start holdings firmwareVersions downloadRecord := by
  intro buildTarget version session other ready continues
  obtain ⟨looked, left⟩ := ready_lookup static ready buildTarget version
  have downloaded : ((downloadRecord buildTarget version).perform host other).1 =
      other.reader.recordIn holdings buildTarget version := by
    rw [perform_downloadRecord]
    exact congrArg (Except.bind · (Metadata.parse buildTarget))
      ((static.later continues).answers buildTarget version other.run.state)
  refine ⟨?_, left, continues.trans ⟨rfl, rfl, rfl, id⟩⟩
  rw [looked, downloaded, continues.recordIn]
  have goesOn := recordIn_ne_cancelled static buildTarget version
  cases found : start.recordIn holdings buildTarget version with
  | ok record => exact .found record
  | error error =>
    rw [found] at goesOn
    have unstopped : error ≠ .cancelled := goesOn ∘ congrArg _
    exact .failed (unstopped ∘ reportFetch_eq_cancelled_iff.mp) unstopped

/-- Whatever a reader of an archive that stays as it is was asked, and in whichever runs,
what it has kept is what the archive has. -/
theorem Reaches.faithful (static : host.Static start holdings) (fresh : start.cache = .empty)
    {reader : ArchiveReader} (reached : start.Reaches host reader) :
    start.Continues reader ∧ reader.Faithful holdings := by
  induction reached with
  | start => exact ⟨.refl start, ArchiveReader.faithful_of_empty fresh holdings⟩
  | @asked reader reached question run inductionHypothesis =>
    obtain ⟨continues, faithful⟩ := inductionHypothesis
    refine ⟨continues.trans (Enquiry.continues host ⟨question, ⟨reader, run⟩⟩), ?_⟩
    rw [Enquiry.left, Question.perform_reading]
    exact (lookup_answers ((static.later continues).answers _ _) faithful).2.2

end ArchiveReader

section Flows

variable {reader : ArchiveReader}

/-- A reconciliation is the one with records that are downloaded each time. -/
theorem reconcile_matches (static : host.Static start holdings) (old : Manifest)
    (releases : List BoardRelease) :
    Reading.Match host start holdings (Both Eq) (reconcile old releases)
      (RecordSource.reconcile ArchiveReader.downloadRecord old releases) := by
  rw [← RecordSource.reconcile_lookups]
  exact (ArchiveReader.lookups_match static).reconcile old releases

/-- The check of a manifest is the one with records that are downloaded each time. -/
theorem Deep.validate_matches (static : host.Static start holdings) (manifest : Manifest) :
    Reading.Match host start holdings (Both Eq) (Deep.validate manifest)
      (RecordSource.validate ArchiveReader.downloadRecord manifest) := by
  rw [← RecordSource.validate_lookups]
  exact (ArchiveReader.lookups_match static).validate manifest

/-- A reconciliation with its check comes to the outcome when the report on it has nothing
that is not let pass. -/
theorem Lab.perform_reconcileAndCheck {lab : Lab} {old : Manifest} {releases : List BoardRelease}
    {workdir : Path} {run : Run σ} {outcome : Reconciliation} {report : Report}
    {middle last : Session σ} (supplied : lab.reader workdir = .ok reader)
    (reconciled : (reconcile old releases).perform host ⟨reader, run⟩ = (.ok outcome, middle))
    (checked : (Deep.validate outcome.manifest).perform host middle = (.ok report, last)) :
    ((lab.reconcileAndCheck old releases workdir).perform host run).1 =
      if (report.without lab.config.allowLists).count = 0 then .ok outcome
      else .error (.anomalies (report.without lab.config.allowLists).count
        (report.without lab.config.allowLists)) := by
  have reads : (Attempt.ofExcept (lab.reader workdir)).perform host run = (.ok reader, run) := by
    rw [supplied]
    rfl
  have reconciles : (Attempt.reading reader (reconcile old releases)).perform host run =
      (.ok (outcome, middle.reader), middle.run) := by
    rw [Attempt.perform_reading, reconciled]
    rfl
  have checks : (Attempt.reading middle.reader (Deep.validate outcome.manifest)).perform host
      middle.run = (.ok (report, last.reader), last.run) := by
    rw [Attempt.perform_reading, checked]
    rfl
  rw [reconcileAndCheck, Attempt.perform_bind_of_ok reads, Attempt.perform_bind_of_ok reconciles,
    Attempt.perform_bind_of_ok checks]
  by_cases clean : (report.without lab.config.allowLists).count = 0
  · rw [if_pos clean]
    simp only [refuseAnomalies, if_pos clean]
    rfl
  · rw [if_neg clean]
    simp only [refuseAnomalies, if_neg clean]
    rfl

/-- It is not noticed, in a run, that a reader keeps records, nor which it has kept. -/
structure ArchiveReader.Unnoticed (host : Host σ) (start reader : ArchiveReader) (run : Run σ) :
    Prop where
  /-- A reconciliation comes to what it comes to with plain downloads. -/
  reconciles : ∀ (old : Manifest) (releases : List BoardRelease) (other : Run σ), ∃ outcome,
    ((reconcile old releases).perform host ⟨reader, run⟩).1 = .ok outcome ∧
    ((RecordSource.reconcile downloadRecord old releases).perform host ⟨start, other⟩).1 =
      .ok outcome
  /-- The check of a manifest comes to what it comes to with plain downloads. -/
  validates : ∀ (manifest : Manifest) (other : Run σ), ∃ report,
    ((Deep.validate manifest).perform host ⟨reader, run⟩).1 = .ok report ∧
    ((RecordSource.validate downloadRecord manifest).perform host ⟨start, other⟩).1 = .ok report
  /-- The report by which an update decides, from the reader that has reconciled, is the
  report of a new reader. -/
  updates : ∀ (lab : Lab) (workdir : Path) (old : Manifest) (releases : List BoardRelease)
    (other : Run σ), lab.reader workdir = .ok start → other.stopped = false →
    ∃ outcome report,
      ((RecordSource.reconcile downloadRecord old releases).perform host ⟨start, other⟩).1 =
        .ok outcome ∧
      ((Deep.validate outcome.manifest).perform host ⟨start, other⟩).1 = .ok report ∧
      ((lab.reconcileAndCheck old releases workdir).perform host run).1 =
        if (report.without lab.config.allowLists).count = 0 then .ok outcome
        else .error (.anomalies (report.without lab.config.allowLists).count
          (report.without lab.config.allowLists))

/-- In an archive that stays as it is, whatever a reader was asked before, it is not
noticed that it keeps records. -/
theorem ArchiveReader.unnoticed (static : host.Static start holdings)
    (fresh : start.cache = .empty) (reached : start.Reaches host reader) {run : Run σ}
    (untold : run.stopped = false) : start.Unnoticed host reader run := by
  obtain ⟨continues, faithful⟩ := reached.faithful static fresh
  have ready : Session.Ready start holdings (⟨reader, run⟩ : Session σ) :=
    ⟨continues, faithful, untold⟩
  have new (later : Run σ) (goesOn : later.stopped = false) :
      Session.Ready start holdings (⟨start, later⟩ : Session σ) :=
    ⟨.refl start, faithful_of_empty fresh holdings, goesOn⟩
  constructor
  case reconciles =>
    intro old releases other
    obtain ⟨⟨outcome, _, kept, plain, rfl⟩, _⟩ :=
      reconcile_matches static old releases _ ⟨start, other⟩ ready (.refl start)
    exact ⟨outcome, kept, plain⟩
  case validates =>
    intro manifest other
    obtain ⟨⟨report, _, kept, plain, rfl⟩, _⟩ :=
      Deep.validate_matches static manifest _ ⟨start, other⟩ ready (.refl start)
    exact ⟨report, kept, plain⟩
  case updates =>
    intro lab workdir old releases other supplied goesOn
    obtain ⟨⟨outcome, _, kept, plain, rfl⟩, left, _⟩ := reconcile_matches static old releases
      ⟨start, run⟩ ⟨start, other⟩ (new run untold) (.refl start)
    have validates := Deep.validate_matches static outcome.manifest
    -- Both readers are compared with the one that downloads each time.
    obtain ⟨⟨report, _, checked, plainly, rfl⟩, _⟩ := validates _ ⟨start, other⟩ left (.refl start)
    obtain ⟨⟨_, _, again, same, rfl⟩, _⟩ :=
      validates ⟨start, other⟩ ⟨start, other⟩ (new other goesOn) (.refl start)
    cases plainly.symm.trans same
    exact ⟨outcome, report, plain, again,
      Lab.perform_reconcileAndCheck supplied (Prod.ext kept rfl) (Prod.ext checked rfl)⟩

end Flows

/-- The archive of a shelf stays as it is. -/
theorem Shelf.static (shelf : Shelf) (reader : ArchiveReader) :
    shelf.host.Static reader shelf.object where
  answers _ _ _ := rfl
  uncancelled buildTarget version := by
    unfold Shelf.object
    split
    · exact nofun
    · exact nofun
  calm _ _ _ := rfl

/-- An archive with one record. -/
def coralRecord : Shelf where
  objects := [("gs://archive/coral-release/R80-12739.0.0/metadata.json",
    Shelf.record "coral" "robo" "Google_Coral.10068.113.0")]

theorem ArchiveReader.unnoticed_coralRecord :
    ({ config := { archiveRoot := "gs://archive" } } : Lab).reader ⟨"/scratch"⟩ =
        .ok Session.fresh.reader ∧
      Session.fresh.reader.Unnoticed coralRecord.host
        (Enquiry.left coralRecord.host ⟨.build "coral" "R80-12739.0.0", Session.fresh⟩).reader
        (Run.start ()) := by
  refine ⟨eq_ok_of_toOption (by decide +kernel), ?_⟩
  exact ArchiveReader.unnoticed (coralRecord.static _) rfl (.asked .start _ _) rfl

end StableFleet
