import StableFleet.Proofs.Archive.Calls
import StableFleet.Proofs.Flow.Lookups

/-!
# Only being told to stop ends a flow

A call of the reader can fail in many ways: there is no object, the network fails, the
record cannot be read, or it does not name the model. A reconciliation and the check of a
manifest put up with all of these. What they do not put up with is a call that is
cancelled, because the operation was told to stop before it began or because its download
was: that ends them at once, and they say so.

This holds of every course, whatever the downloads are answered and whenever the operation
is told to stop. A course of a flow is made of the calls of its reader, and a flow that is
told to stop was told by its last call.
-/

namespace StableFleet

/-- Whether an answer means that the operation was told to stop. -/
def Request.Cancelled : (request : Request) → request.Answer → Prop
  | .stopped, told => told = true
  | .download .., answer => answer = .error .cancelled
  | _, _ => False

/-- Whether an exchange told the operation to stop. -/
def Exchange.Cancels (exchange : Exchange) : Prop := exchange.request.Cancelled exchange.answer

variable {α β : Type}

/-- A cancelled call has an exchange that says so. -/
theorem ReaderCall.exists_cancels {call : ReaderCall} (looks : call.LooksFirst)
    (cancelled : call.Cancelled) : ∃ exchange ∈ call.exchanges, exchange.Cancels := by
  rcases cancelled with told | ⟨backend, remote, target, present⟩
  · rw [looks.idle told]
    exact ⟨_, List.mem_singleton_self _, rfl⟩
  · exact ⟨_, present, rfl⟩

/-- Calls heed being told to stop: none is cancelled, and they come to a result or to a
failure that is tolerated; or the last one is, and they fail accordingly. -/
inductive Heeded (tolerated : Error → Prop) : List ReaderCall → Except Error α → Prop
  | quiet {calls : List ReaderCall} {answer : Except Error α}
      (calm : ∀ call ∈ calls, ¬ call.Cancelled)
      (fails : ∀ error, answer = .error error → error ≠ .cancelled ∧ tolerated error) :
      Heeded tolerated calls answer
  | stopped {before : List ReaderCall} {last : ReaderCall}
      (calm : ∀ call ∈ before, ¬ call.Cancelled) (cancelled : last.Cancelled) :
      Heeded tolerated (before ++ [last]) (.error .cancelled)

/-- What comes after calls that were not cancelled may be cancelled instead. -/
theorem Heeded.after {tolerated : Error → Prop} {first second : List ReaderCall}
    {answer : Except Error α} (calm : ∀ call ∈ first, ¬ call.Cancelled)
    (heeded : Heeded tolerated second answer) : Heeded tolerated (first ++ second) answer := by
  cases heeded with
  | quiet calmLater fails => exact .quiet (List.forall_mem_append.mpr ⟨calm, calmLater⟩) fails
  | stopped calmLater cancelled =>
    rw [← List.append_assoc]
    exact .stopped (List.forall_mem_append.mpr ⟨calm, calmLater⟩) cancelled

/-- A single call that tolerates every failure heeds being told to stop when it reports that
exactly if it is cancelled. -/
theorem Heeded.single {call : ReaderCall} {answer : Except Error α}
    (reports : answer = .error .cancelled ↔ call.Cancelled) :
    Heeded (fun _ => True) [call] answer := by
  by_cases cancelled : call.Cancelled
  · rw [reports.mpr cancelled, ← List.nil_append [call]]
    exact .stopped (List.forall_mem_nil _) cancelled
  · refine .quiet (List.forall_mem_singleton.mpr cancelled) ?_
    rintro error rfl
    refine ⟨?_, trivial⟩
    rintro rfl
    exact cancelled (reports.mp rfl)

namespace Reading

/-- Every course of a reading, whatever it is answered and whenever it is told to stop, is
made of calls of which this holds, together with the answer. -/
def MadeOfCalls (holds : List ReaderCall → Except Error α → Prop) (reading : Reading α) : Prop :=
  ∀ ⦃reader left : ArchiveReader⦄ ⦃told last : Bool⦄ ⦃exchanges : List Exchange⦄
    ⦃answer : Except Error α⦄,
    Flow.Signalled told (reading.with reader) exchanges (answer, left) last →
      ∃ calls, reading.Calls (reader, told) calls answer (left, last) ∧
        exchanges = calls.flatMap (·.exchanges) ∧ holds calls answer

/-- A reading heeds being told to stop when its calls do. -/
def Heeds (tolerated : Error → Prop) (reading : Reading α) : Prop :=
  reading.MadeOfCalls (Heeded tolerated)

variable {tolerated : Error → Prop}

/-- A reading that is finished heeds being told to stop. -/
theorem heeds_pure (result : α) : Heeds tolerated (pure result : Reading α) := by
  intro reader left told last exchanges answer course
  cases course
  exact ⟨[], .nothing result _, rfl, .quiet (List.forall_mem_nil _) nofun⟩

/-- One reading after another heeds being told to stop when both do. -/
theorem heeds_bind {reading : Reading α} {after : α → Reading β}
    (first : Heeds tolerated reading) (second : ∀ result, Heeds tolerated (after result)) :
    Heeds tolerated (reading >>= after) := by
  intro reader left told last exchanges answer course
  obtain ⟨before, later, ⟨found, middle⟩, between, rfl, began, ended⟩ :=
    Flow.signalled_bind course
  obtain ⟨calls, made, rfl, heeded⟩ := first began
  cases found with
  | error error =>
    cases ended
    rw [List.append_nil]
    refine ⟨calls, made.failed, rfl, ?_⟩
    cases heeded with
    | quiet calm fails =>
      refine .quiet calm ?_
      rintro _ ⟨⟩
      exact fails error rfl
    | stopped calm cancelled => exact .stopped calm cancelled
  | ok result =>
    obtain ⟨others, makes, rfl, heeds⟩ := second result ended
    refine ⟨calls ++ others, made.followed makes, List.flatMap_append.symm, ?_⟩
    cases heeded with
    | quiet calm _ => exact heeds.after calm

/-- Passing over failures tolerates none: it does not fail unless told to stop. -/
theorem heeds_unlessStopped {reading : Reading α} (heeds : Heeds tolerated reading) :
    Heeds (fun _ => False) (ArchiveReader.unlessStopped reading) := by
  intro reader left told last exchanges answer course
  obtain ⟨found, began, ⟨rfl, rfl⟩ | ⟨goesOn, rfl⟩⟩ := ArchiveReader.signalled_unlessStopped course
  · obtain ⟨calls, made, exchanged, heeded⟩ := heeds began
    refine ⟨calls, .cancelled made, exchanged, ?_⟩
    cases heeded with
    | quiet _ fails => exact absurd rfl (fails .cancelled rfl).1
    | stopped calm cancelled => exact .stopped calm cancelled
  · obtain ⟨calls, made, exchanged, heeded⟩ := heeds began
    refine ⟨calls, .passed goesOn made, exchanged, ?_⟩
    cases heeded with
    | quiet calm _ => exact .quiet calm nofun
    | stopped _ _ => exact absurd rfl goesOn

/-- Asking for the firmware of a build may fail for any reason; told to stop, it stops. -/
theorem heeds_firmwareVersions (buildTarget version : String) :
    Heeds (fun _ => True) (ArchiveReader.firmwareVersions buildTarget version) := by
  intro reader left told last exchanges answer course
  refine ⟨_, .build buildTarget version course, (List.append_nil exchanges).symm, ?_⟩
  exact .single (ArchiveReader.looksFirst_lookup (.build buildTarget version) course).2

/-- Readings that fail only when they are told to stop compose. -/
theorem composes_heeds : Composes fun _ reading => Heeds (fun _ => False) reading :=
  ⟨heeds_pure, heeds_bind⟩

/-- A reconciliation fails only when it is told to stop. -/
theorem heeds_reconcile (old : Manifest) (releases : List BoardRelease) :
    Heeds (fun _ => False) (reconcile old releases) :=
  composes_heeds.reconcile (fun _ _ => heeds_unlessStopped (heeds_firmwareVersions _ _)) _ _

/-- A run that no exchange tells to stop has a result, if it fails only when it is told
to. -/
theorem Heeds.ok_of_calm {σ : Type} {host : Host σ} {session : Session σ} {reading : Reading α}
    (heeds : Heeds (fun _ => False) reading)
    (calm : ∀ exchange ∈ reading.exchanges host session, ¬ exchange.Cancels) :
    ∃ result, (reading.perform host session).1 = .ok result := by
  obtain ⟨calls, made, exchanged, heeded⟩ :=
    heeds (Flow.signalled_run host (reading.with session.reader) session.run)
  have split : reading.exchanges host session = calls.flatMap (·.exchanges) := exchanged
  change Heeded _ calls (reading.perform host session).1 at heeded
  cases answer : (reading.perform host session).1 with
  | ok result => exact ⟨result, rfl⟩
  | error error =>
    rw [answer] at heeded
    cases heeded with
    | quiet _ fails => exact (fails error rfl).2.elim
    | @stopped before last _ cancelled =>
      have present : last ∈ before ++ [last] := List.mem_append_right _ List.mem_cons_self
      obtain ⟨exchange, among, cancels⟩ :=
        ReaderCall.exists_cancels (made.looksFirst last present) cancelled
      have among : exchange ∈ reading.exchanges host session :=
        split ▸ List.mem_flatMap.mpr ⟨last, present, among⟩
      exact absurd cancels (calm exchange among)

end Reading

end StableFleet
