import StableFleet.Proofs.Archive.Enquiry
import StableFleet.Proofs.Archive.Holdings
import StableFleet.Proofs.Flow.Signal

/-!
# The calls that a reading makes of its reader

A reading calls its reader for the firmware of a build, or for that of one model of a build,
and goes on with the answer. A call is cancelled if the operation was told to stop when the
call began, or if the answer to its download says so.

Every call looks first whether to stop. One that was told to does nothing else, and any
other finds the record that is kept or makes the download of its build.
-/

namespace StableFleet

/-- A call of a reader: what was asked, the reader, and whether the operation was told to
stop when the call began, and the exchanges that the call made. -/
structure ReaderCall where
  question : Question
  reader : ArchiveReader
  told : Bool
  exchanges : List Exchange

namespace ReaderCall

/-- A call is cancelled: the operation was told to stop when it began, or its download
was. -/
def Cancelled (call : ReaderCall) : Prop :=
  call.told = true ∨
    ∃ backend remote target,
      (⟨.download backend remote target, .error .cancelled⟩ : Exchange) ∈ call.exchanges

/-- What a call does: it looks whether to stop, and that is all if it is told to, or if the
record of the build is kept. Otherwise the download of the build follows. -/
inductive LooksFirst : ReaderCall → Prop
  | told (question : Question) (reader : ArchiveReader) :
      LooksFirst ⟨question, reader, true, [⟨.stopped, true⟩]⟩
  | kept (question : Question) (reader : ArchiveReader) :
      LooksFirst ⟨question, reader, false, [⟨.stopped, false⟩]⟩
  | downloads (question : Question) (reader : ArchiveReader) (answer : Except Error Bytes) :
      LooksFirst ⟨question, reader, false, [⟨.stopped, false⟩,
        reader.downloadWith question.buildTarget question.version answer]⟩

/-- A call that was told to stop does no more than look. -/
theorem LooksFirst.idle {call : ReaderCall} (looks : call.LooksFirst) (told : call.told = true) :
    call.exchanges = [⟨.stopped, true⟩] := by
  cases looks with
  | told question reader => rfl
  | kept question reader => cases told
  | downloads question reader answer => cases told

end ReaderCall

variable {α β : Type}

/-- The calls that a reading makes, and its answer. It begins with a reader and with the
operation told to stop or not, and leaves both as they then are. -/
inductive Reading.Calls : {α : Type} → Reading α → ArchiveReader × Bool → List ReaderCall →
    Except Error α → ArchiveReader × Bool → Prop
  /-- A reading that is finished makes none. -/
  | nothing {α : Type} (result : α) (start : ArchiveReader × Bool) :
      Calls (pure result) start [] (.ok result) start
  /-- Asking for the firmware of a build is a call. -/
  | build (buildTarget version : String) {reader left : ArchiveReader} {told last : Bool}
      {exchanges : List Exchange} {answer : Except Error ModelFirmware}
      (course : Flow.Signalled told
        ((ArchiveReader.firmwareVersions buildTarget version).with reader) exchanges
        (answer, left) last) :
      Calls (ArchiveReader.firmwareVersions buildTarget version) (reader, told)
        [⟨.build buildTarget version, reader, told, exchanges⟩] answer (left, last)
  /-- So is asking for the firmware of a model. -/
  | model (buildTarget model version : String) {reader left : ArchiveReader} {told last : Bool}
      {exchanges : List Exchange} {answer : Except Error String}
      (course : Flow.Signalled told
        ((ArchiveReader.firmwareVersion buildTarget model version).with reader) exchanges
        (answer, left) last) :
      Calls (ArchiveReader.firmwareVersion buildTarget model version) (reader, told)
        [⟨.model buildTarget model version, reader, told, exchanges⟩] answer (left, last)
  /-- Passing over failures stops where the reading was told to stop. -/
  | cancelled {α : Type} {reading : Reading α} {start left : ArchiveReader × Bool}
      {calls : List ReaderCall} (stopped : Calls reading start calls (.error .cancelled) left) :
      Calls (ArchiveReader.unlessStopped reading) start calls (.error .cancelled) left
  /-- It goes on with any other answer. -/
  | passed {α : Type} {reading : Reading α} {start left : ArchiveReader × Bool}
      {calls : List ReaderCall} {answer : Except Error α} (goesOn : answer ≠ .error .cancelled)
      (made : Calls reading start calls answer left) :
      Calls (ArchiveReader.unlessStopped reading) start calls (.ok answer) left
  /-- One reading after another fails with the first. -/
  | failed {α β : Type} {reading : Reading α} {after : α → Reading β}
      {start left : ArchiveReader × Bool} {calls : List ReaderCall} {error : Error}
      (first : Calls reading start calls (.error error) left) :
      Calls (reading >>= after) start calls (.error error) left
  /-- Otherwise it makes the calls of the first and then those of the second. -/
  | followed {α β : Type} {reading : Reading α} {after : α → Reading β}
      {start middle left : ArchiveReader × Bool} {calls others : List ReaderCall} {result : α}
      {answer : Except Error β} (first : Calls reading start calls (.ok result) middle)
      (second : Calls (after result) middle others answer left) :
      Calls (reading >>= after) start (calls ++ others) answer left

namespace ArchiveReader

/-- After a download, a lookup reports that it was told to stop only if the download
was. -/
theorem afterDownload_cancelled_iff {reader : ArchiveReader} {buildTarget version : String}
    {answer : Except Error Bytes} :
    (reader.afterDownload buildTarget version answer).1 = .error .cancelled ↔
      answer = .error .cancelled := by
  cases answer with
  | error error =>
    have unread : (Except.error error : Except Error Bytes).bind (Metadata.parse buildTarget) =
        .error error := rfl
    rw [afterDownload_of_unread unread, Except.error.injEq, Except.error.injEq]
    exact reportFetch_eq_cancelled_iff
  | ok bytes =>
    have uncancelled := Metadata.parse_ne_cancelled buildTarget bytes
    refine ⟨fun told => ?_, nofun⟩
    have same : (Except.ok bytes : Except Error Bytes).bind (Metadata.parse buildTarget) =
        Metadata.parse buildTarget bytes := rfl
    cases read : Metadata.parse buildTarget bytes with
    | ok record =>
      rw [afterDownload_of_read (same.trans read)] at told
      cases told
    | error error =>
      rw [afterDownload_of_unread (same.trans read), Except.error.injEq,
        reportFetch_eq_cancelled_iff] at told
      rw [read, told] at uncancelled
      exact absurd rfl uncancelled

variable {reader left : ArchiveReader} {buildTarget version : String} {told last : Bool}
  {exchanges : List Exchange}

/-- The courses of a lookup: it is told to stop when it begins, or finds the record that
is kept, or downloads with any answer. -/
theorem signalled_lookup {answer : Except Error ModelFirmware}
    (course : Flow.Signalled told ((firmwareVersions buildTarget version).with reader) exchanges
      (answer, left) last) :
    (told = true ∧ exchanges = [⟨.stopped, true⟩] ∧ answer = .error .cancelled) ∨
    (∃ record, told = false ∧ exchanges = [⟨.stopped, false⟩] ∧ answer = .ok record) ∨
    ∃ downloaded, told = false ∧ exchanges = [⟨.stopped, false⟩,
        reader.downloadWith buildTarget version downloaded] ∧
      answer = (reader.afterDownload buildTarget version downloaded).1 := by
  rw [with_firmwareVersions] at course
  obtain ⟨first, second, asked, between, rfl, looked, goes⟩ := Flow.signalled_bind course
  cases looked with
  | ask tells stays rest =>
    cases rest
    obtain rfl : asked = told := tells
    cases asked with
    | true =>
      cases goes
      exact .inl ⟨rfl, rfl, rfl⟩
    | false =>
      refine .inr ?_
      change Flow.Signalled between (reader.lookUp buildTarget version) second (answer, left) last
        at goes
      unfold lookUp at goes
      split at goes
      · next record kept =>
        cases goes
        exact .inl ⟨record, rfl, rfl, rfl⟩
      · cases goes with
        | @ask _ _ _ _ _ downloaded _ _ _ _ rest =>
          obtain ⟨rfl, same⟩ := Flow.signalled_pure rest
          exact .inr ⟨downloaded, rfl, rfl, congrArg Prod.fst same⟩

/-- The lookup for a question looks first whether to stop, and reports that it was told to
exactly when it is cancelled. -/
theorem looksFirst_lookup (question : Question) {answer : Except Error ModelFirmware}
    (course : Flow.Signalled told
      ((firmwareVersions question.buildTarget question.version).with reader) exchanges
      (answer, left) last) :
    ReaderCall.LooksFirst ⟨question, reader, told, exchanges⟩ ∧
      (answer = .error .cancelled ↔ ReaderCall.Cancelled ⟨question, reader, told, exchanges⟩) := by
  rcases signalled_lookup course with
    ⟨rfl, rfl, rfl⟩ | ⟨record, rfl, rfl, rfl⟩ | ⟨downloaded, rfl, rfl, rfl⟩
  · exact ⟨.told question reader, fun _ => .inl rfl, fun _ => rfl⟩
  · refine ⟨.kept question reader, nofun, ?_⟩
    rintro (told | ⟨backend, remote, target, present⟩)
    · cases told
    · cases List.mem_singleton.mp present
  · refine ⟨.downloads question reader downloaded, ?_⟩
    rw [afterDownload_cancelled_iff]
    constructor
    · rintro rfl
      exact .inr ⟨_, _, _, List.mem_cons_of_mem _ List.mem_cons_self⟩
    · rintro (told | ⟨backend, remote, target, present⟩)
      · cases told
      · rcases List.mem_cons.mp present with look | download
        · cases look
        · cases List.mem_singleton.mp download
          rfl

/-- The courses of asking for the firmware of a model are those of the lookup of its
build. -/
theorem signalled_firmwareVersion {model : String} {answer : Except Error String}
    (course : Flow.Signalled told ((firmwareVersion buildTarget model version).with reader)
      exchanges (answer, left) last) :
    ∃ found, Flow.Signalled told ((firmwareVersions buildTarget version).with reader) exchanges
        (found, left) last ∧
      (answer = .error .cancelled ↔ found = .error .cancelled) := by
  obtain ⟨first, second, ⟨found, middle⟩, between, rfl, looked, goes⟩ := Flow.signalled_bind course
  cases found with
  | error error =>
    cases goes
    rw [List.append_nil]
    refine ⟨.error error, looked, ?_⟩
    rw [Except.error.injEq, Except.error.injEq]
  | ok record =>
    -- With the record at hand, whether it names the model is asked of nobody.
    cases named : record.get? model with
    | some firmware =>
      simp only [ExceptT.bindCont, named] at goes
      cases goes
      rw [List.append_nil]
      exact ⟨.ok record, looked, nofun, nofun⟩
    | none =>
      simp only [ExceptT.bindCont, named] at goes
      cases goes
      rw [List.append_nil]
      exact ⟨.ok record, looked, nofun, nofun⟩

/-- The courses of passing over failures are those of the reading. It stops where the
reading was told to stop, and goes on with any other answer. -/
theorem signalled_unlessStopped {reading : Reading α} {answer : Except Error (Except Error α)}
    (course : Flow.Signalled told ((unlessStopped reading).with reader) exchanges
      (answer, left) last) :
    ∃ found, Flow.Signalled told (reading.with reader) exchanges (found, left) last ∧
      (found = .error .cancelled ∧ answer = .error .cancelled ∨
        found ≠ .error .cancelled ∧ answer = .ok found) := by
  obtain ⟨first, second, ⟨found, middle⟩, between, rfl, began, goes⟩ := Flow.signalled_bind course
  refine ⟨found, ?_⟩
  cases found with
  | ok result =>
    cases goes
    rw [List.append_nil]
    exact ⟨began, .inr ⟨nofun, rfl⟩⟩
  | error error =>
    by_cases stopped : error = .cancelled
    · subst stopped
      cases goes
      rw [List.append_nil]
      exact ⟨began, .inl ⟨rfl, rfl⟩⟩
    · have goesOn : (Except.error error : Except Error α) ≠ .error .cancelled :=
        fun same => stopped (Except.error.inj same)
      have finished : second = [] ∧ (answer, left) = (.ok (.error error), middle) ∧
          last = between := by
        cases error <;> first | exact absurd rfl stopped | (cases goes; exact ⟨rfl, rfl, rfl⟩)
      obtain ⟨rfl, same, rfl⟩ := finished
      cases same
      rw [List.append_nil]
      exact ⟨began, .inr ⟨goesOn, rfl⟩⟩

end ArchiveReader

/-- Every call that a reading makes looks first whether to stop. -/
theorem Reading.Calls.looksFirst {reading : Reading α} {start left : ArchiveReader × Bool}
    {calls : List ReaderCall} {answer : Except Error α}
    (made : reading.Calls start calls answer left) : ∀ call ∈ calls, call.LooksFirst := by
  induction made with
  | nothing result start => exact List.forall_mem_nil _
  | build buildTarget version course =>
    rw [List.forall_mem_singleton]
    exact (ArchiveReader.looksFirst_lookup (.build buildTarget version) course).1
  | model buildTarget model version course =>
    obtain ⟨found, looked, _⟩ := ArchiveReader.signalled_firmwareVersion course
    rw [List.forall_mem_singleton]
    exact (ArchiveReader.looksFirst_lookup (.model buildTarget model version) looked).1
  | cancelled stopped inductionHypothesis => exact inductionHypothesis
  | passed goesOn made inductionHypothesis => exact inductionHypothesis
  | failed first inductionHypothesis => exact inductionHypothesis
  | followed first second here later => exact List.forall_mem_append.mpr ⟨here, later⟩

end StableFleet
