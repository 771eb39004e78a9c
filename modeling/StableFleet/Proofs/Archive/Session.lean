import StableFleet.Flows.Lab
import StableFleet.Proofs.Flow.Exchange

/-!
# Readers in a run

A reading goes from one session to the next: a session is a reader together with
the run it is used in. Reading one thing after another goes through the session
in between, and a reading that fails leaves the session where it failed.
-/

namespace StableFleet

/-- A reader and the run that it is used in. -/
structure Session (σ : Type) where
  reader : ArchiveReader
  run : Run σ

namespace Reading

variable {σ α β : Type}

/-- The result of a reading and the session that it leaves. -/
def perform (host : Host σ) (reading : Reading α) (session : Session σ) :
    Except Error α × Session σ :=
  let outcome := Flow.run host (reading.with session.reader) session.run
  (outcome.1.1, ⟨outcome.1.2, outcome.2⟩)

@[simp] theorem perform_pure (host : Host σ) (result : α) (session : Session σ) :
    (pure result : Reading α).perform host session = (.ok result, session) := rfl

/-- One reading after another fails with the first, or goes on in the session
that the first has left. -/
theorem perform_bind (host : Host σ) (reading : Reading α) (after : α → Reading β)
    (session : Session σ) :
    (reading >>= after).perform host session =
      match reading.perform host session with
      | (.ok result, left) => (after result).perform host left
      | (.error error, left) => (.error error, left) := by
  have ran : Flow.run host ((reading >>= after).with session.reader) session.run = _ :=
    Flow.run_bind host (reading.with session.reader) _ session.run
  simp only [perform, ran]
  cases (Flow.run host (reading.with session.reader) session.run).1.1 with
  | ok result => rfl
  | error error => rfl

/-- Passing over failures leaves the session as it is; only being told to stop
stays a failure. -/
theorem perform_unlessStopped (host : Host σ) (reading : Reading α) (session : Session σ) :
    (ArchiveReader.unlessStopped reading).perform host session =
      match reading.perform host session with
      | (.error .cancelled, left) => (.error .cancelled, left)
      | (answer, left) => (.ok answer, left) := by
  have ran : Flow.run host ((ArchiveReader.unlessStopped reading).with session.reader)
      session.run = _ := Flow.run_bind host (reading.with session.reader) _ session.run
  simp only [perform, ran]
  cases (Flow.run host (reading.with session.reader) session.run).1.1 with
  | ok result => rfl
  | error error => cases error <;> rfl

/-- A reading whose failures are passed over succeeds unless it was told to stop. -/
theorem perform_unlessStopped_of_ne {host : Host σ} {reading : Reading α}
    {session left : Session σ} {answer : Except Error α}
    (done : reading.perform host session = (answer, left)) (goesOn : answer ≠ .error .cancelled) :
    (ArchiveReader.unlessStopped reading).perform host session = (.ok answer, left) := by
  rw [perform_unlessStopped, done]
  cases answer with
  | ok result => rfl
  | error error => cases error <;> first | rfl | exact absurd rfl goesOn

/-- When one reading after another succeeds, both have. -/
theorem bind_ok {host : Host σ} {reading : Reading α} {after : α → Reading β}
    {session left : Session σ} {result : β}
    (succeeded : (reading >>= after).perform host session = (.ok result, left)) :
    ∃ found middle, reading.perform host session = (.ok found, middle) ∧
      (after found).perform host middle = (.ok result, left) := by
  rw [perform_bind] at succeeded
  cases first : reading.perform host session with
  | mk answer middle =>
    rw [first] at succeeded
    cases answer with
    | ok found => exact ⟨found, middle, rfl, succeeded⟩
    | error error => cases succeeded

/-- When a reading whose failures are passed over succeeds, it was not told to
stop. -/
theorem unlessStopped_ok {host : Host σ} {reading : Reading α} {session left : Session σ}
    {answer : Except Error α}
    (succeeded : (ArchiveReader.unlessStopped reading).perform host session = (.ok answer, left)) :
    reading.perform host session = (answer, left) ∧ answer ≠ .error .cancelled := by
  rw [perform_unlessStopped] at succeeded
  cases outcome : reading.perform host session with
  | mk found middle =>
    rw [outcome] at succeeded
    cases found with
    | ok result =>
      cases succeeded
      exact ⟨rfl, nofun⟩
    | error error =>
      by_cases told : error = .cancelled
      · subst told
        cases succeeded
      · cases error <;> first | exact absurd rfl told | (cases succeeded; exact ⟨rfl, nofun⟩)

end Reading

/-- Letting a reader read in an attempt is the reading, whose reader is given back if
nothing failed. -/
theorem Attempt.perform_reading {σ α : Type} (host : Host σ) (reading : Reading α)
    (reader : ArchiveReader) (run : Run σ) :
    (Attempt.reading reader reading).perform host run =
      ((reading.perform host ⟨reader, run⟩).1.map fun result =>
          (result, (reading.perform host ⟨reader, run⟩).2.reader),
        (reading.perform host ⟨reader, run⟩).2.run) :=
  Flow.run_bind host (reading.with reader) _ run

/-- When letting a reader read in an attempt succeeds, the reading has succeeded,
and the attempt goes on in the session that the reading has left. -/
theorem Attempt.reading_ok {σ α : Type} {host : Host σ} {reading : Reading α}
    {reader left : ArchiveReader} {run : Run σ} {result : α}
    (succeeded : ((Attempt.reading reader reading).perform host run).1 = .ok (result, left)) :
    reading.perform host ⟨reader, run⟩ =
      (.ok result, ⟨left, ((Attempt.reading reader reading).perform host run).2⟩) := by
  rw [Attempt.perform_reading] at succeeded ⊢
  cases outcome : reading.perform host ⟨reader, run⟩ with
  | mk answer session =>
    rw [outcome] at succeeded
    cases answer with
    | error error => cases succeeded
    | ok found =>
      cases succeeded
      rfl

end StableFleet
