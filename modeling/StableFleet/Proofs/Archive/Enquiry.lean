import StableFleet.Proofs.Archive.Keeping

/-!
# What a reader is asked over time

A reader is asked one question after another: for the firmware of a build, or for that
of one model of a build. The surroundings may answer each download as they please. They
may tell the operation to stop while they answer, and it may be told at any time between
two questions. The reader outlives the operation: the next one may go on with it.

An enquiry comes to one of three things, as the lookup of its build does. A record that
was read once answers every later enquiry about its build that may go on; until then
each of them downloads, and a download that comes to nothing leaves nothing behind.
-/

namespace StableFleet

/-- Whether a request is the download of an object. -/
def Request.isDownload : Request → Bool
  | .download .. => true
  | _ => false

/-- What a reader can be asked. -/
inductive Question
  /-- For the firmware of a build. -/
  | build (buildTarget version : String)
  /-- For the firmware of one model of a build. -/
  | model (buildTarget model version : String)

namespace ArchiveReader

/-- A download whose bytes can be read is answered with the record, which is kept. -/
theorem afterDownload_of_read {reader : ArchiveReader} {buildTarget version : String}
    {answer : Except Error Bytes} {record : ModelFirmware}
    (read : answer.bind (Metadata.parse buildTarget) = .ok record) :
    reader.afterDownload buildTarget version answer = (.ok record,
      { reader with
        cache := reader.cache.insert buildTarget version record
        fetches := reader.fetches + 1 }) := by
  rw [afterDownload, read]

/-- A download that comes to nothing is reported, and leaves what is kept as it is. -/
theorem afterDownload_of_unread {reader : ArchiveReader} {buildTarget version : String}
    {answer : Except Error Bytes} {error : Error}
    (unread : answer.bind (Metadata.parse buildTarget) = .error error) :
    reader.afterDownload buildTarget version answer =
      (.error (reportFetch buildTarget version error),
        { reader with fetches := reader.fetches + 1 }) := by
  rw [afterDownload, unread]

end ArchiveReader

namespace Question

/-- The build target that a question is about. -/
def buildTarget : Question → String
  | build buildTarget _ => buildTarget
  | model buildTarget _ _ => buildTarget

/-- The version that a question is about. -/
def version : Question → String
  | build _ version => version
  | model _ _ version => version

/-- The build that a question is about. -/
def about (question : Question) : String × String := (question.buildTarget, question.version)

/-- The answer to a question once the record of the build was looked up. A model that
the record does not name is reported. -/
def answer : Question → Except Error ModelFirmware → Except Error (ModelFirmware ⊕ String)
  | build _ _, found => found.map .inl
  | model buildTarget name _, found => found.bind fun record =>
      match record.get? name with
      | some firmware => .ok (.inr firmware)
      | none => .error (.failedToLookup buildTarget name)

/-- What the reader does about a question. -/
def reading : Question → Reading (ModelFirmware ⊕ String)
  | build buildTarget version => do
    return .inl (← ArchiveReader.firmwareVersions buildTarget version)
  | model buildTarget name version => do
    return .inr (← ArchiveReader.firmwareVersion buildTarget name version)

variable {σ : Type}

/-- A question is answered from the lookup of its build. -/
theorem perform_reading (host : Host σ) (question : Question) (session : Session σ) :
    question.reading.perform host session =
      (question.answer ((ArchiveReader.firmwareVersions question.buildTarget
          question.version).perform host session).1,
        ((ArchiveReader.firmwareVersions question.buildTarget question.version).perform host
          session).2) := by
  cases question with
  | build buildTarget version =>
    rw [reading, Reading.perform_bind]
    simp only [Question.buildTarget, Question.version]
    cases (ArchiveReader.firmwareVersions buildTarget version).perform host session with
    | mk answer left => cases answer <;> rfl
  | model buildTarget name version =>
    rw [reading, Reading.perform_bind, ArchiveReader.perform_firmwareVersion]
    simp only [Question.buildTarget, Question.version, Question.answer]
    cases (ArchiveReader.firmwareVersions buildTarget version).perform host session with
    | mk answer left =>
      cases answer with
      | error error => rfl
      | ok record =>
        simp only [Except.bind]
        cases record.get? name <;> rfl

/-- A question makes the exchanges of the lookup of its build. -/
theorem exchanges_reading (host : Host σ) (question : Question) (session : Session σ) :
    question.reading.exchanges host session =
      (ArchiveReader.firmwareVersions question.buildTarget question.version).exchanges host
        session := by
  cases question with
  | build buildTarget version =>
    rw [reading, Reading.exchanges_bind]
    cases (ArchiveReader.firmwareVersions buildTarget version).perform host session with
    | mk answer left => cases answer <;> exact List.append_nil _
  | model buildTarget name version =>
    rw [reading, Reading.exchanges_bind, ArchiveReader.exchanges_firmwareVersion]
    cases (ArchiveReader.firmwareVersion buildTarget name version).perform host session with
    | mk answer left => cases answer <;> exact List.append_nil _

/-- The answer without a record is the report why there is none. -/
@[simp] theorem answer_error (question : Question) (error : Error) :
    question.answer (.error error) = .error error := by
  cases question <;> rfl

/-- An answer from a record is no report of a fetch that failed. -/
theorem answer_ok_ne_report (question : Question) (record : ModelFirmware)
    (buildTarget version : String) (error : Error) :
    question.answer (.ok record) ≠
      .error (ArchiveReader.reportFetch buildTarget version error) := by
  cases question with
  | build otherTarget otherVersion => exact nofun
  | model otherTarget name otherVersion =>
    simp only [answer, Except.bind]
    cases record.get? name with
    | some firmware => exact nofun
    | none => cases error <;> exact nofun

end Question

/-- A question that is put to a reader in a session. -/
structure Enquiry (σ : Type) where
  question : Question
  session : Session σ

namespace Enquiry

variable {σ : Type}

/-- What an enquiry is answered. -/
def answer (host : Host σ) (enquiry : Enquiry σ) : Except Error (ModelFirmware ⊕ String) :=
  (enquiry.question.reading.perform host enquiry.session).1

/-- The session that an enquiry leaves. -/
def left (host : Host σ) (enquiry : Enquiry σ) : Session σ :=
  (enquiry.question.reading.perform host enquiry.session).2

/-- The downloads that an enquiry makes. -/
def downloads (host : Host σ) (enquiry : Enquiry σ) : List Exchange :=
  (enquiry.question.reading.exchanges host enquiry.session).filter fun exchange =>
    exchange.request.isDownload

/-- Whether the operation was told to stop before an enquiry. -/
def Told (enquiry : Enquiry σ) : Prop := enquiry.session.run.stopped = true

/-- The record that is kept of the build when an enquiry is made. -/
def kept? (enquiry : Enquiry σ) : Option ModelFirmware :=
  enquiry.session.reader.cache.get? enquiry.question.buildTarget enquiry.question.version

/-- An enquiry makes one download, which is that of its build, and has this answer. -/
def DownloadsOnce (host : Host σ) (enquiry : Enquiry σ) (answer : Except Error Bytes) : Prop :=
  enquiry.downloads host = [enquiry.session.reader.downloadWith enquiry.question.buildTarget
    enquiry.question.version answer]

/-- What can be read of the bytes that a download of the build of an enquiry has. -/
def read (enquiry : Enquiry σ) (answer : Except Error Bytes) : Except Error ModelFirmware :=
  answer.bind (Metadata.parse enquiry.question.buildTarget)

/-- An enquiry was answered from a record, be it that the record does not name the
model. -/
def Answered (host : Host σ) (enquiry : Enquiry σ) : Prop :=
  ∃ record, enquiry.answer host = enquiry.question.answer (.ok record)

/-- An enquiry has fetched the record of its build. -/
def Fetches (host : Host σ) (enquiry : Enquiry σ) : Prop :=
  ∃ answer record, enquiry.DownloadsOnce host answer ∧ enquiry.read answer = .ok record

/-- An enquiry is told to stop, or finds the record that is kept, or downloads. -/
theorem cases (host : Host σ) (enquiry : Enquiry σ) :
    (enquiry.Told ∧ enquiry.answer host = .error .cancelled ∧
      enquiry.left host = enquiry.session ∧ enquiry.downloads host = []) ∨
    (∃ record, ¬ enquiry.Told ∧ enquiry.kept? = some record ∧
      enquiry.answer host = enquiry.question.answer (.ok record) ∧
      enquiry.left host = enquiry.session ∧ enquiry.downloads host = []) ∨
    (∃ answer run, ¬ enquiry.Told ∧ enquiry.kept? = none ∧ enquiry.DownloadsOnce host answer ∧
      enquiry.answer host = enquiry.question.answer (enquiry.session.reader.afterDownload
        enquiry.question.buildTarget enquiry.question.version answer).1 ∧
      enquiry.left host = ⟨(enquiry.session.reader.afterDownload
        enquiry.question.buildTarget enquiry.question.version answer).2, run⟩) := by
  unfold Enquiry.answer left DownloadsOnce downloads Told kept?
  rw [Question.perform_reading, Question.exchanges_reading]
  rcases ArchiveReader.lookup_cases host enquiry.session enquiry.question.buildTarget
      enquiry.question.version with
    ⟨told, looked, asked⟩ | ⟨record, untold, kept, looked, asked⟩ |
    ⟨answer, run, untold, unkept, _, looked, asked⟩
  · rw [looked, asked, Question.answer_error]
    exact .inl ⟨told, rfl, rfl, rfl⟩
  · rw [looked, asked, untold]
    exact .inr (.inl ⟨record, nofun, kept, rfl, rfl, rfl⟩)
  · rw [looked, asked, untold]
    exact .inr (.inr ⟨answer, run, nofun, unkept, rfl, rfl, rfl⟩)

section Step

variable {host : Host σ} {enquiry : Enquiry σ}

/-- An enquiry that is told to stop does nothing else. -/
theorem of_told (host : Host σ) (told : enquiry.Told) :
    enquiry.downloads host = [] ∧ enquiry.answer host = .error .cancelled ∧
      enquiry.left host = enquiry.session := by
  rcases enquiry.cases host with
    ⟨_, answered, leaves, asked⟩ | ⟨_, untold, _⟩ | ⟨_, _, untold, _⟩
  · exact ⟨asked, answered, leaves⟩
  · exact absurd told untold
  · exact absurd told untold

/-- An enquiry that may go on is answered from the record that is kept. -/
theorem of_kept (untold : ¬ enquiry.Told) {record : ModelFirmware}
    (kept : enquiry.kept? = some record) :
    enquiry.downloads host = [] ∧ enquiry.answer host = enquiry.question.answer (.ok record) := by
  rcases enquiry.cases host with
    ⟨told, _⟩ | ⟨other, _, same, answered, _, asked⟩ | ⟨_, _, _, unkept, _⟩
  · exact absurd told untold
  · cases kept.symm.trans same
    exact ⟨asked, answered⟩
  · cases kept.symm.trans unkept

/-- An enquiry that may go on downloads when no record is kept. -/
theorem of_unkept (host : Host σ) (untold : ¬ enquiry.Told) (unkept : enquiry.kept? = none) :
    ∃ answer, enquiry.DownloadsOnce host answer := by
  rcases enquiry.cases host with ⟨told, _⟩ | ⟨_, _, kept, _⟩ | ⟨answer, _, _, _, asked, _⟩
  · exact absurd told untold
  · cases unkept.symm.trans kept
  · exact ⟨answer, asked⟩

/-- What an enquiry that downloads comes to is determined by the answer to the
download. -/
theorem of_downloadsOnce {answer : Except Error Bytes} (asked : enquiry.DownloadsOnce host answer) :
    ¬ enquiry.Told ∧ enquiry.kept? = none ∧ ∃ run,
      enquiry.answer host = enquiry.question.answer (enquiry.session.reader.afterDownload
        enquiry.question.buildTarget enquiry.question.version answer).1 ∧
      enquiry.left host = ⟨(enquiry.session.reader.afterDownload
        enquiry.question.buildTarget enquiry.question.version answer).2, run⟩ := by
  rcases enquiry.cases host with
    ⟨_, _, _, nothing⟩ | ⟨_, _, _, _, _, nothing⟩ | ⟨other, run, untold, unkept, same, found, left⟩
  · cases asked.symm.trans nothing
  · cases asked.symm.trans nothing
  · cases asked.symm.trans same
    exact ⟨untold, unkept, run, found, left⟩

/-- An enquiry whose download can be read is answered from the record, which is kept from
then on. -/
theorem of_read {answer : Except Error Bytes} {record : ModelFirmware}
    (asked : enquiry.DownloadsOnce host answer) (read : enquiry.read answer = .ok record) :
    enquiry.answer host = enquiry.question.answer (.ok record) ∧
      (enquiry.left host).reader.cache.get? enquiry.question.buildTarget
        enquiry.question.version = some record := by
  obtain ⟨_, _, run, answered, leaves⟩ := of_downloadsOnce asked
  rw [answered, leaves, ArchiveReader.afterDownload_of_read read]
  exact ⟨rfl, (FirmwareCache.get?_insert ..).trans (if_pos ⟨rfl, rfl⟩)⟩

/-- An enquiry whose download comes to nothing says why, and leaves what is kept as it
is. -/
theorem of_unread {answer : Except Error Bytes} {error : Error}
    (asked : enquiry.DownloadsOnce host answer) (unread : enquiry.read answer = .error error) :
    enquiry.answer host = .error (ArchiveReader.reportFetch enquiry.question.buildTarget
        enquiry.question.version error) ∧
      (enquiry.left host).reader.cache = enquiry.session.reader.cache := by
  obtain ⟨_, _, run, answered, leaves⟩ := of_downloadsOnce asked
  rw [answered, leaves, ArchiveReader.afterDownload_of_unread unread, Question.answer_error]
  exact ⟨rfl, rfl⟩

/-- An enquiry that was answered from a record leaves that record. -/
theorem kept_of_answered (answered : enquiry.Answered host) :
    ∃ record, enquiry.answer host = enquiry.question.answer (.ok record) ∧
      (enquiry.left host).reader.cache.get? enquiry.question.buildTarget
        enquiry.question.version = some record := by
  obtain ⟨seen, answered⟩ := answered
  rcases enquiry.cases host with
    ⟨_, told, _⟩ | ⟨record, _, kept, found, leaves, _⟩ | ⟨answer, _, _, _, asked, _⟩
  · exact absurd (answered.symm.trans told)
      (enquiry.question.answer_ok_ne_report seen "" "" .cancelled)
  · exact ⟨record, found, leaves ▸ kept⟩
  · cases read : enquiry.read answer with
    | ok record => exact ⟨record, of_read asked read⟩
    | error error =>
      exact absurd (answered.symm.trans (of_unread asked read).1)
        (enquiry.question.answer_ok_ne_report seen _ _ error)

/-- A record that an enquiry leaves was there before, or the enquiry was answered from
it. -/
theorem origin_of_kept {buildTarget version : String} {record : ModelFirmware}
    (kept : (enquiry.left host).reader.cache.get? buildTarget version = some record) :
    enquiry.session.reader.cache.get? buildTarget version = some record ∨
      (enquiry.question.about = (buildTarget, version) ∧ enquiry.Answered host) := by
  rcases enquiry.cases host with
    ⟨_, _, leaves, _⟩ | ⟨_, _, _, _, leaves, _⟩ | ⟨answer, run, _, _, asked, _, leaves⟩
  · exact .inl (leaves ▸ kept)
  · exact .inl (leaves ▸ kept)
  · cases read : enquiry.read answer with
    | error error => exact .inl ((of_unread asked read).2 ▸ kept)
    | ok found =>
      rw [leaves, ArchiveReader.afterDownload_of_read read] at kept
      have inserted := (FirmwareCache.get?_insert ..).symm.trans kept
      split at inserted
      · next same => exact .inr ⟨Prod.ext same.1.symm same.2.symm, found, (of_read asked read).1⟩
      · exact .inl inserted

/-- A reader goes on after an enquiry. -/
theorem continues (host : Host σ) (enquiry : Enquiry σ) :
    enquiry.session.reader.Continues (enquiry.left host).reader := by
  rw [left, Question.perform_reading]
  exact ArchiveReader.continues_lookup host enquiry.session _ _

/-- The fetches that a reader counts grow by the downloads of an enquiry. -/
theorem fetches_left (host : Host σ) (enquiry : Enquiry σ) :
    (enquiry.left host).reader.fetches =
      enquiry.session.reader.fetches + (enquiry.downloads host).length := by
  rcases enquiry.cases host with
    ⟨_, _, leaves, asked⟩ | ⟨_, _, _, _, leaves, asked⟩ | ⟨answer, run, _, _, asked, _, leaves⟩
  · rw [leaves, asked]
    rfl
  · rw [leaves, asked]
    rfl
  · rw [leaves, asked]
    unfold ArchiveReader.afterDownload
    cases answer.bind (Metadata.parse enquiry.question.buildTarget) <;> rfl

end Step

end Enquiry

/-- What happens to a reader: it is asked something, or from now on it is asked by an
operation that was told to stop, or by one that was not. -/
inductive Occasion
  | asked (question : Question)
  | told (stop : Bool)

namespace Session

variable {σ : Type}

/-- The session in which an operation was told to stop, or was not. -/
def told (session : Session σ) (stop : Bool) : Session σ :=
  { session with run := { session.run with stopped := stop } }

/-- The session after some occasions in turn. -/
def after (host : Host σ) : List Occasion → Session σ → Session σ
  | [], session => session
  | .asked question :: later, session => after host later (Enquiry.left host ⟨question, session⟩)
  | .told stop :: later, session => after host later (session.told stop)

/-- The enquiries that are made at some occasions in turn. -/
def enquiries (host : Host σ) : List Occasion → Session σ → List (Enquiry σ)
  | [], _ => []
  | .asked question :: later, session =>
    ⟨question, session⟩ :: enquiries host later (Enquiry.left host ⟨question, session⟩)
  | .told stop :: later, session => enquiries host later (session.told stop)

variable {host : Host σ} {occasions : List Occasion} {session : Session σ}

/-- A reader goes on from enquiry to enquiry. -/
theorem continues_enquiries {enquiry : Enquiry σ}
    (made : enquiry ∈ enquiries host occasions session) :
    session.reader.Continues enquiry.session.reader := by
  induction occasions generalizing session with
  | nil => cases made
  | cons occasion occasions inductionHypothesis =>
    cases occasion with
    | told stop =>
      have continues := inductionHypothesis made
      exact continues
    | asked question =>
      rcases List.mem_cons.mp made with rfl | later
      · exact .refl _
      · exact (Enquiry.continues host ⟨question, session⟩).trans (inductionHypothesis later)

/-- The enquiries after one of several start in the session that it leaves. -/
theorem enquiries_split {earlier later : List (Enquiry σ)} {enquiry : Enquiry σ}
    (made : enquiries host occasions session = earlier ++ enquiry :: later) :
    ∃ others, later = enquiries host others (enquiry.left host) := by
  induction occasions generalizing session earlier with
  | nil => simp [enquiries] at made
  | cons occasion occasions inductionHypothesis =>
    cases occasion with
    | told stop => exact inductionHypothesis made
    | asked question =>
      cases earlier with
      | nil =>
        obtain ⟨rfl, rest⟩ := List.cons.inj made
        exact ⟨occasions, rest.symm⟩
      | cons first earlier => exact inductionHypothesis (List.cons.inj made).2

/-- A record that is kept when an enquiry is made was there from the start, or an
earlier enquiry about the build was answered from a record. The induction goes along the
occasions; each enquiry adds a record of its own build at most. -/
theorem origin_enquiries {earlier later : List (Enquiry σ)} {enquiry : Enquiry σ}
    {buildTarget version : String} {record : ModelFirmware}
    (made : enquiries host occasions session = earlier ++ enquiry :: later)
    (kept : enquiry.session.reader.cache.get? buildTarget version = some record) :
    session.reader.cache.get? buildTarget version = some record ∨
      ∃ other ∈ earlier, other.question.about = (buildTarget, version) ∧ other.Answered host := by
  induction occasions generalizing session earlier with
  | nil => simp [enquiries] at made
  | cons occasion occasions inductionHypothesis =>
    cases occasion with
    | told stop =>
      have origin := inductionHypothesis made
      exact origin
    | asked question =>
      cases earlier with
      | nil =>
        obtain ⟨rfl, _⟩ := List.cons.inj made
        exact .inl kept
      | cons first earlier =>
        obtain ⟨rfl, rest⟩ := List.cons.inj made
        rcases inductionHypothesis rest with left | ⟨other, member, same, answered⟩
        · rcases Enquiry.origin_of_kept left with before | ⟨same, answered⟩
          · exact .inl before
          · exact .inr ⟨_, List.mem_cons_self, same, answered⟩
        · exact .inr ⟨other, List.mem_cons_of_mem _ member, same, answered⟩

/-- The fetches that a reader counts grow by the downloads of the enquiries. -/
theorem fetches_after (host : Host σ) (occasions : List Occasion) (session : Session σ) :
    (after host occasions session).reader.fetches = session.reader.fetches +
      ((enquiries host occasions session).flatMap fun enquiry =>
        enquiry.downloads host).length := by
  induction occasions generalizing session with
  | nil => rfl
  | cons occasion occasions inductionHypothesis =>
    cases occasion with
    | told stop => exact inductionHypothesis (session.told stop)
    | asked question =>
      rw [after, inductionHypothesis, Enquiry.fetches_left, enquiries, List.flatMap_cons,
        List.length_append, Nat.add_assoc]

/-- The record from which an enquiry was answered is that of every enquiry about the
build that comes after it and may go on. -/
theorem answered_again {enquiry : Enquiry σ} (answered : enquiry.Answered host) :
    ∃ record, enquiry.answer host = enquiry.question.answer (.ok record) ∧
      ∀ occasions, ∀ other ∈ enquiries host occasions (enquiry.left host),
        other.question.about = enquiry.question.about → ¬ other.Told →
        other.downloads host = [] ∧ other.answer host = other.question.answer (.ok record) := by
  obtain ⟨record, found, kept⟩ := Enquiry.kept_of_answered answered
  refine ⟨record, found, ?_⟩
  intro occasions other made same untold
  obtain ⟨target, version⟩ := Prod.mk.inj same
  apply Enquiry.of_kept untold
  rw [Enquiry.kept?, target, version]
  exact (continues_enquiries made).keeps kept

end Session

/-- What holds of the enquiries that are put to a reader one after another. -/
structure Memoizes {σ : Type} (host : Host σ) (enquiries : List (Enquiry σ)) : Prop where
  /-- An operation that was told to stop downloads nothing. -/
  told : ∀ enquiry ∈ enquiries, enquiry.Told →
    enquiry.downloads host = [] ∧ enquiry.answer host = .error .cancelled
  /-- Once an enquiry was answered from a record, every later one about the build that may
  go on is answered from the same record, without a download. -/
  repeats : ∀ {earlier enquiry later}, enquiries = earlier ++ enquiry :: later →
    enquiry.Answered host →
      ∃ record, enquiry.answer host = enquiry.question.answer (.ok record) ∧
        ∀ other ∈ later, other.question.about = enquiry.question.about → ¬ other.Told →
          other.downloads host = [] ∧ other.answer host = other.question.answer (.ok record)
  /-- Until then an enquiry that may go on downloads the record of its build. -/
  downloads : ∀ {earlier enquiry later}, enquiries = earlier ++ enquiry :: later →
    ¬ enquiry.Told →
    (∀ other ∈ earlier, other.question.about = enquiry.question.about → ¬ other.Answered host) →
      ∃ answer, enquiry.DownloadsOnce host answer
  /-- A download whose bytes can be read gives the answer, and its record is kept, be it
  that the record does not name the model. -/
  fetches : ∀ enquiry ∈ enquiries, ∀ answer record, enquiry.DownloadsOnce host answer →
    enquiry.read answer = .ok record →
      enquiry.answer host = enquiry.question.answer (.ok record) ∧
        (enquiry.left host).reader.cache.get? enquiry.question.buildTarget
          enquiry.question.version = some record
  /-- A download that fails, or whose bytes cannot be read, is reported as such: as being
  told to stop if it was, and else by its build. What is kept stays as it is. -/
  fails : ∀ enquiry ∈ enquiries, ∀ answer error, enquiry.DownloadsOnce host answer →
    enquiry.read answer = .error error →
      enquiry.answer host = .error (if error = .cancelled then .cancelled
        else .archiveUnavailable enquiry.question.buildTarget enquiry.question.version
          error.message) ∧
        (enquiry.left host).reader.cache = enquiry.session.reader.cache
  /-- After such a download, the next enquiry about the build that may go on downloads
  again. -/
  retries : ∀ {earlier enquiry between other later},
    enquiries = earlier ++ enquiry :: (between ++ other :: later) →
    ∀ answer error, enquiry.DownloadsOnce host answer → enquiry.read answer = .error error →
      (∀ meanwhile ∈ between, meanwhile.question.about = enquiry.question.about →
        meanwhile.Told) →
      other.question.about = enquiry.question.about → ¬ other.Told →
        ∃ answer, other.DownloadsOnce host answer
  /-- At most one enquiry about a build fetches its record. -/
  once : enquiries.Pairwise fun earlier later =>
    earlier.question.about = later.question.about → earlier.Fetches host → ¬ later.Fetches host

namespace Session

variable {σ : Type} {host : Host σ} {occasions : List Occasion} {session : Session σ}

/-- An enquiry that is not told to stop downloads when no record was kept from the start
and no enquiry about the build was answered from one. -/
theorem downloads_of_unanswered {earlier later : List (Enquiry σ)} {enquiry : Enquiry σ}
    (fresh : session.reader.cache = .empty)
    (made : enquiries host occasions session = earlier ++ enquiry :: later)
    (untold : ¬ enquiry.Told)
    (unanswered : ∀ other ∈ earlier, other.question.about = enquiry.question.about →
      ¬ other.Answered host) :
    ∃ answer, enquiry.DownloadsOnce host answer := by
  apply Enquiry.of_unkept host untold
  cases kept : enquiry.kept? with
  | none => rfl
  | some record =>
    rcases origin_enquiries made kept with before | ⟨other, member, same, answered⟩
    · rw [fresh] at before
      cases before
    · exact absurd answered (unanswered other member same)

/-- After a download that came to nothing, the next enquiry about the build that may go on
downloads again. -/
theorem downloads_again {earlier between later : List (Enquiry σ)} {enquiry other : Enquiry σ}
    {answer : Except Error Bytes} {error : Error} (fresh : session.reader.cache = .empty)
    (made : enquiries host occasions session = earlier ++ enquiry :: (between ++ other :: later))
    (asked : enquiry.DownloadsOnce host answer) (unread : enquiry.read answer = .error error)
    (meanwhile : ∀ one ∈ between, one.question.about = enquiry.question.about → one.Told)
    (same : other.question.about = enquiry.question.about) (untold : ¬ other.Told) :
    ∃ answer, other.DownloadsOnce host answer := by
  have split : enquiries host occasions session =
      (earlier ++ enquiry :: between) ++ other :: later := by
    rw [made, List.append_assoc, List.cons_append]
  apply downloads_of_unanswered fresh split untold
  intro one member about answered
  rcases List.mem_append.mp member with before | here
  · -- Had an earlier enquiry been answered, this one would not have downloaded.
    obtain ⟨first, others, rfl⟩ := List.append_of_mem before
    have placed : enquiries host occasions session =
        first ++ one :: (others ++ enquiry :: (between ++ other :: later)) := by
      rw [made, List.append_assoc, List.cons_append]
    obtain ⟨rest, remaining⟩ := enquiries_split placed
    obtain ⟨record, _, repeats⟩ := answered_again answered
    have present : enquiry ∈ enquiries host rest (one.left host) := by
      rw [← remaining]
      exact List.mem_append_right _ List.mem_cons_self
    obtain ⟨enquiryUntold, _⟩ := Enquiry.of_downloadsOnce asked
    obtain ⟨nothing, _⟩ := repeats rest enquiry present (same.symm.trans about.symm) enquiryUntold
    cases asked.symm.trans nothing
  · obtain ⟨record, found⟩ := answered
    rcases List.mem_cons.mp here with rfl | inside
    · exact absurd (found.symm.trans (Enquiry.of_unread asked unread).1)
        (Question.answer_ok_ne_report _ record _ _ error)
    · have told := meanwhile one inside (about.trans same)
      exact absurd (found.symm.trans (Enquiry.of_told host told).2.1)
        (Question.answer_ok_ne_report _ record "" "" .cancelled)

/-- A build is fetched once at most. -/
theorem fetches_once (host : Host σ) (occasions : List Occasion) (session : Session σ) :
    (enquiries host occasions session).Pairwise fun earlier later =>
      earlier.question.about = later.question.about → earlier.Fetches host →
        ¬ later.Fetches host := by
  induction occasions generalizing session with
  | nil => exact List.Pairwise.nil
  | cons occasion occasions inductionHypothesis =>
    cases occasion with
    | told stop => exact inductionHypothesis (session.told stop)
    | asked question =>
      refine List.pairwise_cons.mpr ⟨?_, inductionHypothesis _⟩
      rintro later made same ⟨answer, record, asked, read⟩ ⟨again, _, askedAgain, _⟩
      obtain ⟨_, _, repeats⟩ := answered_again ⟨record, (Enquiry.of_read asked read).1⟩
      obtain ⟨untold, _⟩ := Enquiry.of_downloadsOnce askedAgain
      obtain ⟨nothing, _⟩ := repeats occasions later made same.symm untold
      cases askedAgain.symm.trans nothing

/-- A new reader memoizes: whatever the surroundings answer, and whenever an operation is
told to stop, a record is read once, and the fetches that are counted are the downloads. -/
theorem enquiries_memoized (host : Host σ) (backend : Backend) (root : String) (workdir : Path)
    (run : Run σ) (occasions : List Occasion) :
    Memoizes host (enquiries host occasions ⟨ArchiveReader.new backend root workdir, run⟩) ∧
      (after host occasions ⟨ArchiveReader.new backend root workdir, run⟩).reader.fetches =
        ((enquiries host occasions ⟨ArchiveReader.new backend root workdir, run⟩).flatMap
          fun enquiry => enquiry.downloads host).length := by
  refine ⟨?_, (fetches_after host occasions _).trans (Nat.zero_add _)⟩
  constructor
  case told =>
    intro enquiry _ told
    obtain ⟨nothing, answered, _⟩ := Enquiry.of_told host told
    exact ⟨nothing, answered⟩
  case repeats =>
    intro earlier enquiry later made answered
    obtain ⟨others, rfl⟩ := enquiries_split made
    obtain ⟨record, found, repeats⟩ := answered_again answered
    exact ⟨record, found, repeats others⟩
  case downloads =>
    intro earlier enquiry later made untold unanswered
    exact downloads_of_unanswered rfl made untold unanswered
  case fetches =>
    intro enquiry _ answer record asked read
    exact Enquiry.of_read asked read
  case fails =>
    intro enquiry _ answer error asked unread
    obtain ⟨reported, kept⟩ := Enquiry.of_unread asked unread
    refine ⟨?_, kept⟩
    rw [reported]
    cases error <;> rfl
  case retries =>
    intro earlier enquiry between other later made answer error asked unread meanwhile same untold
    exact downloads_again rfl made asked unread meanwhile same untold
  case once => exact fetches_once host occasions _

end Session

end StableFleet
