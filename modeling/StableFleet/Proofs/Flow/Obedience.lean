import StableFleet.Proofs.Archive.Lookup
import StableFleet.Proofs.Flow.Exchange
import StableFleet.Proofs.Flow.Lookups

/-!
# Flows that keep to what is allowed

A flow obeys when every request it can make is an allowed one, and when being
told to stop ends it at once with a result that says so. Both are properties of
the flow alone: they cover every way in which its requests may be answered. A
flow made of obedient parts is obedient, so each operation is judged once.

The run of an obedient flow makes allowed requests only. If one of its exchanges
tells it to stop, that exchange is the last and the result says that the
operation was told to stop.
-/

namespace StableFleet

/-- Whether an answer tells the operation to stop. -/
def Request.tellsToStop : (request : Request) → request.Answer → Bool
  | .stopped, told => told
  | _, _ => false

/-- Whether an exchange told the operation to stop. -/
def Exchange.tellsToStop (exchange : Exchange) : Bool :=
  exchange.request.tellsToStop exchange.answer

namespace Flow

variable {σ α β : Type}

/-- Every request is allowed, and an answer that tells the flow to stop ends it
with a result that says so. -/
def Obeys (allowed : Request → Prop) (ending : α → Prop) : Flow α → Prop
  | Program.done _ => True
  | Program.ask request next => allowed request ∧ ∀ answer,
      (request.tellsToStop answer = true → ∃ result, next answer = Program.done result ∧ ending result) ∧
        Obeys allowed ending (next answer)

variable {allowed : Request → Prop} {ending : α → Prop} {otherEnding : β → Prop}

theorem obeys_pure (result : α) : Obeys allowed ending (pure result : Flow α) := trivial

/-- One flow after another obeys when both do, and what follows a flow that was
told to stop only passes that on. -/
theorem obeys_bind {flow : Flow α} {after : α → Flow β} (first : Obeys allowed ending flow)
    (passesOn : ∀ result, ending result → ∃ other, after result = pure other ∧ otherEnding other)
    (second : ∀ result, Obeys allowed otherEnding (after result)) :
    Obeys allowed otherEnding (flow >>= after) := by
  induction flow with
  | done result => exact second result
  | ask request next inductionHypothesis =>
    refine ⟨first.1, fun answer => ⟨?_, inductionHypothesis answer (first.2 answer).2⟩⟩
    intro told
    obtain ⟨result, ended, endsSo⟩ := (first.2 answer).1 told
    obtain ⟨other, passed, otherEnded⟩ := passesOn result endsSo
    refine ⟨other, ?_, otherEnded⟩
    change (next answer).andThen after = _
    rw [ended]
    exact passed

/-- What is allowed may be widened. -/
theorem obeys_mono {wider : Request → Prop} {flow : Flow α}
    (wide : ∀ request, allowed request → wider request) (obeys : Obeys allowed ending flow) :
    Obeys wider ending flow := by
  induction flow with
  | done result => exact trivial
  | ask request next inductionHypothesis =>
    refine ⟨wide request obeys.1, fun answer => ⟨(obeys.2 answer).1, ?_⟩⟩
    exact inductionHypothesis answer (obeys.2 answer).2

/-- The requests of a run of an obedient flow are allowed. -/
theorem allowed_of_obeys {flow : Flow α} (obeys : Obeys allowed ending flow) (host : Host σ)
    (run : Run σ) : ∀ exchange ∈ Flow.exchanges host flow run, allowed exchange.request := by
  induction flow generalizing run with
  | done result => simp [exchanges]
  | ask request next inductionHypothesis =>
    intro exchange present
    rcases List.mem_cons.mp present with rfl | later
    · exact obeys.1
    · exact inductionHypothesis _ (obeys.2 _).2 _ exchange later

/-- An exchange that tells an obedient flow to stop is the last of its run, and
the result says so. The induction goes along the requests; at the exchange in
question the flow is finished, since it obeys. -/
theorem ends_of_obeys {flow : Flow α} (obeys : Obeys allowed ending flow) (host : Host σ)
    (run : Run σ) {before after : List Exchange} {exchange : Exchange}
    (exchanged : Flow.exchanges host flow run = before ++ exchange :: after)
    (told : exchange.tellsToStop = true) : after = [] ∧ ending (Flow.run host flow run).1 := by
  induction flow generalizing run before with
  | done result => simp [exchanges] at exchanged
  | ask request next inductionHypothesis =>
    cases before with
    | nil =>
      obtain ⟨here, later⟩ := List.cons.inj exchanged
      subst here
      obtain ⟨result, ended, endsSo⟩ := (obeys.2 _).1 told
      constructor
      · rw [← later, ended]
        rfl
      · have finished : Flow.run host (next (Run.serve host request run).1)
            (Run.serve host request run).2 = (result, (Run.serve host request run).2) :=
          congrArg (fun flow => Flow.run host flow (Run.serve host request run).2) ended
        exact (congrArg (ending ·.1) finished).mpr endsSo
    | cons first before =>
      exact inductionHypothesis _ (obeys.2 _).2 _ (List.cons.inj exchanged).2

end Flow

namespace Attempt

variable {α β : Type} {allowed : Request → Prop}

/-- An attempt that obeys: told to stop, it fails as an operation that was told
to stop. -/
def Obeys (allowed : Request → Prop) (attempt : Attempt α) : Prop :=
  Flow.Obeys allowed (fun result => result = .error .cancelled) attempt.run

theorem obeys_pure (result : α) : Obeys allowed (pure result : Attempt α) := trivial

theorem obeys_throw (error : Error) : Obeys allowed (throw error : Attempt α) := trivial

theorem obeys_ofExcept (result : Except Error α) : Obeys allowed (ofExcept result) := trivial

theorem obeys_bind {attempt : Attempt α} {after : α → Attempt β} (first : Obeys allowed attempt)
    (second : ∀ result, Obeys allowed (after result)) : Obeys allowed (attempt >>= after) := by
  refine Flow.obeys_bind first ?_ ?_
  · rintro _ rfl
    exact ⟨.error .cancelled, rfl, rfl⟩
  · intro result
    cases result with
    | error error => exact trivial
    | ok result => exact second result

theorem obeys_checkpoint (stopping : allowed .stopped) : Obeys allowed checkpoint := by
  refine ⟨stopping, fun told => ⟨?_, trivial⟩⟩
  intro yes
  exact ⟨.error .cancelled, by rw [show told = true from yes]; rfl, rfl⟩

/-- A single request other than whether to stop obeys when it is allowed. -/
theorem obeys_request {request : Request} {next : request.Answer → Flow (Except Error α)}
    (permitted : allowed request) (quiet : ∀ answer, request.tellsToStop answer = false)
    (ends : ∀ answer, ∃ result, next answer = Program.done result) :
    Obeys allowed (ExceptT.mk (Program.ask request next)) := by
  refine ⟨permitted, fun answer => ⟨?_, ?_⟩⟩
  · intro told
    rw [quiet answer] at told
    cases told
  · obtain ⟨result, ended⟩ := ends answer
    rw [ended]
    exact trivial

theorem obeys_readFile (path : Path) (permitted : allowed (.readFile path)) :
    Obeys allowed (readFile path) :=
  obeys_request permitted (fun _ => rfl) fun _ => ⟨_, rfl⟩

theorem obeys_writeFile (path : Path) (contents : Bytes)
    (permitted : allowed (.writeFile path contents)) : Obeys allowed (writeFile path contents) :=
  obeys_request permitted (fun _ => rfl) fun _ => ⟨_, rfl⟩

end Attempt

namespace Reading

variable {α β : Type} {allowed : Request → Prop}

/-- A reading that obeys with every reader: told to stop, it fails as an
operation that was told to stop. -/
def Obeys (allowed : Request → Prop) (reading : Reading α) : Prop :=
  ∀ reader, Flow.Obeys allowed (fun outcome => outcome.1 = .error .cancelled) (reading.with reader)

theorem obeys_pure (result : α) : Obeys allowed (pure result : Reading α) := fun _ => trivial

theorem obeys_throw (error : Error) : Obeys allowed (throw error : Reading α) := fun _ => trivial

theorem obeys_bind {reading : Reading α} {after : α → Reading β} (first : Obeys allowed reading)
    (second : ∀ result, Obeys allowed (after result)) : Obeys allowed (reading >>= after) := by
  intro reader
  refine Flow.obeys_bind (first reader) ?_ ?_
  · rintro ⟨_, left⟩ rfl
    exact ⟨(.error .cancelled, left), rfl, rfl⟩
  · rintro ⟨result, left⟩
    cases result with
    | error error => exact trivial
    | ok result => exact second result left

/-- Looking up the record of a build asks whether to stop and then downloads at
most once. -/
theorem obeys_firmwareVersions (stopping : allowed .stopped)
    (downloading : ∀ backend remote target, allowed (.download backend remote target))
    (buildTarget version : String) :
    Obeys allowed (ArchiveReader.firmwareVersions buildTarget version) := by
  intro reader
  rw [ArchiveReader.with_firmwareVersions]
  refine ⟨stopping, fun told => ?_⟩
  cases told with
  | true => exact ⟨fun _ => ⟨(.error .cancelled, reader), rfl, rfl⟩, trivial⟩
  | false =>
    refine ⟨nofun, ?_⟩
    change Flow.Obeys allowed _ (reader.lookUp buildTarget version)
    unfold ArchiveReader.lookUp
    split
    · exact trivial
    · exact ⟨downloading _ _ _, fun _ => ⟨nofun, trivial⟩⟩

/-- Looking up the firmware of a model looks up the record of its build. -/
theorem obeys_firmwareVersion (stopping : allowed .stopped)
    (downloading : ∀ backend remote target, allowed (.download backend remote target))
    (buildTarget model version : String) :
    Obeys allowed (ArchiveReader.firmwareVersion buildTarget model version) := by
  refine obeys_bind (obeys_firmwareVersions stopping downloading buildTarget version) ?_
  intro record
  split
  · exact obeys_pure _
  · exact obeys_throw _

/-- Passing over failures other than being told to stop keeps a reading
obedient. -/
theorem obeys_unlessStopped {reading : Reading α} (obeys : Obeys allowed reading) :
    Obeys allowed (ArchiveReader.unlessStopped reading) := by
  intro reader
  refine Flow.obeys_bind (obeys reader) ?_ ?_
  · rintro ⟨_, left⟩ rfl
    exact ⟨(.error .cancelled, left), rfl, rfl⟩
  · rintro ⟨result, left⟩
    cases result with
    | error error => cases error <;> exact trivial
    | ok result => exact trivial

/-- Readings that obey compose. -/
theorem composes_obeys : Composes fun _ reading => Obeys allowed reading :=
  ⟨obeys_pure, obeys_bind⟩

end Reading

end StableFleet
