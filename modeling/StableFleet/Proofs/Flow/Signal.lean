import StableFleet.Proofs.Flow.Exchange

/-!
# Courses of a flow that may be told to stop at any moment

A course of a flow is one way for it to run to its end, with its requests answered as one
pleases. Here the flow runs beside a signal that tells the operation to stop. The signal may
be given before the first request or after any answer, and once given it stays. It is known
whether or not the flow asks: a flow that asks gets the truth, and one that does not ask
goes on all the same.
-/

namespace StableFleet

/-- The answer to whether the operation was told to stop is the truth. Other answers are as
they please. -/
def Request.Tells (told : Bool) : (request : Request) → request.Answer → Prop
  | .stopped, answer => answer = told
  | _, _ => True

namespace Flow

variable {σ α β : Type}

/-- A flow can make these exchanges, one after another, and end with this result, where the
operation was told to stop, or not, when the flow began and when it ended. -/
inductive Signalled : Bool → Flow α → List Exchange → α → Bool → Prop
  | done (told : Bool) (result : α) : Signalled told (Program.done result) [] result told
  | ask {told later last : Bool} {request : Request} {next : request.Answer → Flow α}
      {answer : request.Answer} {exchanges : List Exchange} {result : α}
      (tells : request.Tells told answer) (stays : told = true → later = true)
      (rest : Signalled later (next answer) exchanges result last) :
      Signalled told (Program.ask request next) (⟨request, answer⟩ :: exchanges) result last

/-- What a flow does with a host is one of these courses. -/
theorem signalled_run (host : Host σ) (flow : Flow α) (run : Run σ) :
    Signalled run.stopped flow (Flow.exchanges host flow run) (Flow.run host flow run).1
      (Flow.run host flow run).2.stopped := by
  induction flow generalizing run with
  | done result => exact .done run.stopped result
  | ask request next inductionHypothesis =>
    have tells : request.Tells run.stopped (Run.serve host request run).1 := by
      cases request with
      | stopped => rfl
      | _ => trivial
    exact .ask tells (serve_stopped host request run) (inductionHypothesis _ _)

/-- A flow that is finished asks for nothing. -/
theorem signalled_pure {final result : α} {told last : Bool} {exchanges : List Exchange}
    (course : Signalled told (pure final) exchanges result last) :
    exchanges = [] ∧ result = final := by
  cases course
  exact ⟨rfl, rfl⟩

/-- A course of one flow after another is a course of the first and then one of the second,
which begins with what was told when the first ended. -/
theorem signalled_bind {flow : Flow α} {after : α → Flow β} {told last : Bool}
    {exchanges : List Exchange} {result : β}
    (course : Signalled told (flow >>= after) exchanges result last) :
    ∃ first second middle between, exchanges = first ++ second ∧
      Signalled told flow first middle between ∧
      Signalled between (after middle) second result last := by
  induction flow generalizing told exchanges with
  | done middle => exact ⟨[], exchanges, middle, told, rfl, .done told middle, course⟩
  | ask request next inductionHypothesis =>
    cases course with
    | ask tells stays rest =>
      obtain ⟨first, second, middle, between, rfl, began, ended⟩ := inductionHypothesis _ rest
      exact ⟨⟨request, _⟩ :: first, second, middle, between, rfl, .ask tells stays began, ended⟩

end Flow

end StableFleet
