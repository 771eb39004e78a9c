import StableFleet.Flows.Lab
import StableFleet.Run

/-!
# What a run was answered

A run is judged by its exchanges: the requests it made, in order, each with the
answer it had. The exchanges of one flow after another are those of the first
followed by those of the second, and an attempt that fails makes none of the
exchanges that were to come after it.

Whether the operation was told to stop is asked in exchanges of its own, which
are listed with the others.
-/

namespace StableFleet

/-- A request with the answer it had. -/
structure Exchange where
  request : Request
  answer : request.Answer

namespace Flow

variable {σ α β : Type}

/-- The requests of a run with their answers, in order. -/
def exchanges (host : Host σ) : Flow α → Run σ → List Exchange
  | Program.done _, _ => []
  | Program.ask request next, run =>
    ⟨request, (Run.serve host request run).1⟩ ::
      exchanges host (next (Run.serve host request run).1) (Run.serve host request run).2

@[simp] theorem exchanges_pure (host : Host σ) (result : α) (run : Run σ) :
    Flow.exchanges host (pure result) run = [] := rfl

@[simp] theorem run_pure (host : Host σ) (result : α) (run : Run σ) :
    Flow.run host (pure result) run = (result, run) := rfl

@[simp] theorem exchanges_ask (host : Host σ) (request : Request) (run : Run σ) :
    Flow.exchanges host (Flow.ask request) run = [⟨request, (Run.serve host request run).1⟩] := rfl

@[simp] theorem run_ask (host : Host σ) (request : Request) (run : Run σ) :
    Flow.run host (Flow.ask request) run = Run.serve host request run := rfl

/-- The exchanges of one flow after another are those of the first and then
those of the second. -/
theorem exchanges_bind (host : Host σ) (flow : Flow α) (after : α → Flow β) (run : Run σ) :
    Flow.exchanges host (flow >>= after) run =
      Flow.exchanges host flow run ++
        Flow.exchanges host (after (Flow.run host flow run).1) (Flow.run host flow run).2 := by
  induction flow generalizing run with
  | done result => rfl
  | ask request next inductionHypothesis =>
    have rest := inductionHypothesis (Run.serve host request run).1 (Run.serve host request run).2
    exact congrArg (⟨request, (Run.serve host request run).1⟩ :: ·) rest

end Flow

namespace Attempt

variable {σ α β : Type}

/-- The result of an attempt and the run that it leaves. -/
def perform (host : Host σ) (attempt : Attempt α) (run : Run σ) : Except Error α × Run σ :=
  Flow.run host attempt.run run

/-- The exchanges of an attempt. -/
def exchanges (host : Host σ) (attempt : Attempt α) (run : Run σ) : List Exchange :=
  Flow.exchanges host attempt.run run

/-- One attempt after another fails with the first, which then is all that was
done, or goes on where the first has left the run. -/
theorem bind_cases (host : Host σ) (attempt : Attempt α) (after : α → Attempt β) (run : Run σ) :
    (∃ error, (attempt.perform host run).1 = .error error ∧
      (attempt >>= after).perform host run = (.error error, (attempt.perform host run).2) ∧
      (attempt >>= after).exchanges host run = attempt.exchanges host run) ∨
    (∃ result, (attempt.perform host run).1 = .ok result ∧
      (attempt >>= after).perform host run =
        (after result).perform host (attempt.perform host run).2 ∧
      (attempt >>= after).exchanges host run = attempt.exchanges host run ++
        (after result).exchanges host (attempt.perform host run).2) := by
  have ran : (attempt >>= after).perform host run = _ := Flow.run_bind host attempt.run _ run
  have exchanged : (attempt >>= after).exchanges host run = _ :=
    Flow.exchanges_bind host attempt.run _ run
  cases outcome : (attempt.perform host run).1 with
  | error error =>
    refine .inl ⟨error, rfl, ?_, ?_⟩
    · rw [ran, show (Flow.run host attempt.run run).1 = .error error from outcome]
      rfl
    · rw [exchanged, show (Flow.run host attempt.run run).1 = .error error from outcome]
      exact List.append_nil _
  | ok result =>
    refine .inr ⟨result, rfl, ?_, ?_⟩
    · rw [ran, show (Flow.run host attempt.run run).1 = .ok result from outcome]
      rfl
    · rw [exchanged, show (Flow.run host attempt.run run).1 = .ok result from outcome]
      rfl

/-- One attempt after another fails with the first, and makes its exchanges only. -/
theorem bind_error {host : Host σ} {attempt : Attempt α} {run : Run σ} {error : Error}
    (after : α → Attempt β) (failed : (attempt.perform host run).1 = .error error) :
    ((attempt >>= after).perform host run).1 = .error error ∧
      (attempt >>= after).exchanges host run = attempt.exchanges host run := by
  rcases bind_cases host attempt after run with ⟨other, same, performed, exchanged⟩ | ⟨_, got, _⟩
  · cases failed.symm.trans same
    exact ⟨by rw [performed], exchanged⟩
  · cases failed.symm.trans got

/-- One attempt after another goes on with the result of the first where that has left
the run. -/
theorem perform_bind_of_ok {host : Host σ} {attempt : Attempt α} {after : α → Attempt β}
    {run left : Run σ} {result : α} (succeeded : attempt.perform host run = (.ok result, left)) :
    (attempt >>= after).perform host run = (after result).perform host left := by
  rcases bind_cases host attempt after run with ⟨error, failed, _⟩ | ⟨first, got, went, _⟩
  · rw [succeeded] at failed
    cases failed
  · rw [succeeded] at got went
    cases got
    exact went

/-- One attempt after another has a result only by way of a result of the
first. -/
theorem bind_ok {host : Host σ} {attempt : Attempt α} {after : α → Attempt β} {run : Run σ}
    {result : β} (succeeded : ((attempt >>= after).perform host run).1 = .ok result) :
    ∃ first, (attempt.perform host run).1 = .ok first ∧
      ((after first).perform host (attempt.perform host run).2).1 = .ok result := by
  rcases bind_cases host attempt after run with ⟨error, _, failed, _⟩ | ⟨first, got, went, _⟩
  · rw [failed] at succeeded
    cases succeeded
  · exact ⟨first, got, by rw [← went]; exact succeeded⟩

/-- An operation that was told to stop does not get past a look at it. -/
theorem checkpoint_told (host : Host σ) {run : Run σ} (told : run.stopped = true) :
    (checkpoint.perform host run).1 = .error .cancelled ∧
      checkpoint.exchanges host run = [⟨.stopped, true⟩] := by
  have failed : (checkpoint.perform host run).1 =
      if run.stopped then .error .cancelled else .ok () := rfl
  have asked : checkpoint.exchanges host run = [⟨.stopped, run.stopped⟩] := rfl
  rw [failed, asked, told]
  exact ⟨rfl, rfl⟩

/-- An action with a scratch directory is the action between the making and the
removing of the directory, and does not take place when none can be made. -/
theorem withScratch_cases (host : Host σ) (action : Path → Attempt α) (run : Run σ) :
    (∃ reason, (Run.serve host .makeScratch run).1 = .error reason ∧
      ((withScratch action).perform host run).1 = .error (.file reason) ∧
      (withScratch action).exchanges host run = [⟨.makeScratch, .error reason⟩]) ∨
    (∃ directory, (Run.serve host .makeScratch run).1 = .ok directory ∧
      ((withScratch action).perform host run).1 =
        ((action directory).perform host (Run.serve host .makeScratch run).2).1 ∧
      (withScratch action).exchanges host run = ⟨.makeScratch, .ok directory⟩ ::
        ((action directory).exchanges host (Run.serve host .makeScratch run).2 ++
          [⟨.dropScratch directory, ()⟩])) := by
  let finish (directory : Path) : Flow (Except Error α) :=
    (action directory).run >>= fun result =>
      Flow.ask (.dropScratch directory) >>= fun _ => pure result
  let proceed (answer : Except String Path) : Flow (Except Error α) :=
    match answer with
    | .error reason => pure (.error (.file reason))
    | .ok directory => finish directory
  have ran : (withScratch action).perform host run =
      Flow.run host (proceed (Run.serve host .makeScratch run).1)
        (Run.serve host .makeScratch run).2 :=
    Flow.run_bind host (Flow.ask .makeScratch) proceed run
  have exchanged : (withScratch action).exchanges host run =
      [⟨.makeScratch, (Run.serve host .makeScratch run).1⟩] ++
        Flow.exchanges host (proceed (Run.serve host .makeScratch run).1)
          (Run.serve host .makeScratch run).2 :=
    Flow.exchanges_bind host (Flow.ask .makeScratch) proceed run
  cases made : (Run.serve host .makeScratch run).1 with
  | error reason =>
    refine .inl ⟨reason, rfl, ?_, ?_⟩
    · rw [ran, made]
      rfl
    · rw [exchanged, made]
      rfl
  | ok directory =>
    have finished : Flow.run host (finish directory) (Run.serve host .makeScratch run).2 = _ :=
      Flow.run_bind host (action directory).run _ _
    have listed : Flow.exchanges host (finish directory) (Run.serve host .makeScratch run).2 = _ :=
      Flow.exchanges_bind host (action directory).run _ _
    refine .inr ⟨directory, rfl, ?_, ?_⟩
    · rw [ran, made]
      exact (congrArg Prod.fst finished).trans rfl
    · rw [exchanged, made]
      exact congrArg (⟨.makeScratch, .ok directory⟩ :: ·) listed

end Attempt

end StableFleet
