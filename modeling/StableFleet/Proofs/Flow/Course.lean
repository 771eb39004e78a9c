import StableFleet.Proofs.Flow.Exchange

/-!
# All the courses that a flow can take

A course of a flow is one way for it to run to its end: its requests are answered as one
pleases, and independently of each other. So an operation may be told to stop between any
two requests, and a download may have any answer, whatever it had before. What a flow does
with a host is one of its courses.
-/

namespace StableFleet

namespace Flow

variable {σ α β : Type}

/-- A flow can make these exchanges, one after another, and end with this result. -/
inductive Course : Flow α → List Exchange → α → Prop
  | done (result : α) : Course (Program.done result) [] result
  | ask {request : Request} {next : request.Answer → Flow α} (answer : request.Answer)
      {later : List Exchange} {result : α} (rest : Course (next answer) later result) :
      Course (Program.ask request next) (⟨request, answer⟩ :: later) result

/-- What a flow does with a host is one of its courses. -/
theorem course_run (host : Host σ) (flow : Flow α) (run : Run σ) :
    Course flow (Flow.exchanges host flow run) (Flow.run host flow run).1 := by
  induction flow generalizing run with
  | done result => exact .done result
  | ask request next inductionHypothesis => exact .ask _ (inductionHypothesis _ _)

/-- Whatever the answers to its requests are, a flow runs to its end. -/
theorem exists_course (flow : Flow α) (answers : (request : Request) → request.Answer) :
    ∃ exchanges result, Course flow exchanges result ∧
      ∀ exchange ∈ exchanges, exchange.answer = answers exchange.request := by
  induction flow with
  | done result => exact ⟨[], result, .done result, List.forall_mem_nil _⟩
  | ask request next inductionHypothesis =>
    obtain ⟨later, result, rest, answered⟩ := inductionHypothesis (answers request)
    exact ⟨_, result, .ask (answers request) rest, List.forall_mem_cons.mpr ⟨rfl, answered⟩⟩

/-- A single request has any answer. -/
theorem course_ask (request : Request) (answer : request.Answer) :
    Course (Flow.ask request) [⟨request, answer⟩] answer :=
  .ask answer (.done answer)

/-- A flow that is finished asks for nothing. -/
theorem course_pure {final result : α} {exchanges : List Exchange}
    (course : Course (pure final) exchanges result) : exchanges = [] ∧ result = final := by
  cases course
  exact ⟨rfl, rfl⟩

/-- A course of one flow after another is a course of the first and then one of the
second. -/
theorem course_bind {flow : Flow α} {after : α → Flow β} {exchanges : List Exchange} {result : β}
    (course : Course (flow >>= after) exchanges result) :
    ∃ first second middle, exchanges = first ++ second ∧ Course flow first middle ∧
      Course (after middle) second result := by
  induction flow generalizing exchanges with
  | done middle => exact ⟨[], exchanges, middle, rfl, .done middle, course⟩
  | ask request next inductionHypothesis =>
    cases course with
    | ask answer rest =>
      obtain ⟨first, second, middle, rfl, before, following⟩ := inductionHypothesis answer rest
      exact ⟨⟨request, answer⟩ :: first, second, middle, rfl, .ask answer before, following⟩

/-- A course of the first flow and then one of the second are a course of one after the
other. -/
theorem Course.andThen {flow : Flow α} {after : α → Flow β} {first second : List Exchange}
    {middle : α} {result : β} (before : Course flow first middle)
    (following : Course (after middle) second result) :
    Course (flow >>= after) (first ++ second) result := by
  induction before with
  | done middle => exact following
  | ask answer _ inductionHypothesis => exact .ask answer (inductionHypothesis following)

end Flow

end StableFleet
