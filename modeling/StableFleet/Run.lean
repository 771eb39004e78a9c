import StableFleet.Request

/-!
# Runs of flows

A host answers the requests of a flow. With each answer it may change its own
state and tell the operation to stop; once told, an operation stays told. A run
keeps the state of the host and whether the operation was told to stop.
-/

namespace StableFleet

/-- What a host gives back: the answer, whether it tells the operation to stop,
and its new state. -/
structure Reply (σ : Type) (request : Request) where
  answer : request.Answer
  stops : Bool
  state : σ

/-- Surroundings with a state of their own. -/
structure Host (σ : Type) where
  reply : (request : Request) → σ → Reply σ request

/-- How far a run has come. -/
structure Run (σ : Type) where
  state : σ
  stopped : Bool

namespace Run

variable {σ α : Type}

/-- The run before anything was asked. -/
def start (state : σ) (stopped : Bool := false) : Run σ := ⟨state, stopped⟩

/-- Serves one request. Whether the operation was told to stop is answered by
the run itself; everything else is put to the host. -/
def serve (host : Host σ) (request : Request) : StateM (Run σ) request.Answer := fun run =>
  match request with
  | .stopped => (run.stopped, run)
  | request =>
    let reply := host.reply request run.state
    (reply.answer, ⟨reply.state, run.stopped || reply.stops⟩)

end Run

/-- Runs a flow to its end. -/
def Flow.run {σ α : Type} (host : Host σ) (flow : Flow α) (run : Run σ) : α × Run σ :=
  Program.serve (Run.serve host) flow run

namespace Flow

variable {σ α β : Type}

@[simp] theorem run_done (host : Host σ) (result : α) (run : Run σ) :
    Flow.run host (.done result) run = (result, run) := rfl

/-- A run of one flow after another is a run of the first and then of the
second. -/
theorem run_bind (host : Host σ) (flow : Flow α) (after : α → Flow β) (run : Run σ) :
    Flow.run host (flow >>= after) run =
      Flow.run host (after (Flow.run host flow run).1) (Flow.run host flow run).2 := by
  have served := Program.serve_andThen (Run.serve host) flow after
  exact congrFun served run

/-- Serving a request leaves an operation told that was told to stop. -/
theorem serve_stopped (host : Host σ) (request : Request) (run : Run σ)
    (told : run.stopped = true) : (Run.serve host request run).2.stopped = true := by
  cases request <;> simp [Run.serve, told]

/-- Once an operation was told to stop, it stays told. -/
theorem run_stopped (host : Host σ) (flow : Flow α) (run : Run σ) (told : run.stopped = true) :
    (Flow.run host flow run).2.stopped = true := by
  induction flow generalizing run with
  | done result => exact told
  | ask request next inductionHypothesis =>
    exact inductionHypothesis _ _ (serve_stopped host request run told)

end Flow

end StableFleet
