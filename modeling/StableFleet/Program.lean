/-!
# Programs that ask their surroundings

A program is finished, or asks its surroundings for something and goes on with
the answer. It says nothing about how it is answered: the same program runs
against files and commands, against an archive kept in memory, and against
surroundings that answer as they please. Asking is the only effect, so what holds
of a program under every answer holds of every run.
-/

namespace StableFleet

/-- A program whose requests have answers of the given types. -/
inductive Program (Request : Type) (Answer : Request → Type) (α : Type) : Type
  | done (result : α)
  | ask (request : Request) (next : Answer request → Program Request Answer α)

namespace Program

variable {Request : Type} {Answer : Request → Type} {α β γ : Type}

/-- One program after another. -/
def andThen : Program Request Answer α → (α → Program Request Answer β) →
    Program Request Answer β
  | done result, after => after result
  | ask request next, after => ask request fun answer => andThen (next answer) after

instance : Monad (Program Request Answer) where
  pure := done
  bind := andThen

/-- Asks for one thing. -/
def request (asked : Request) : Program Request Answer (Answer asked) :=
  ask asked done

/-- A program finished after another leaves it as it is. -/
theorem andThen_done (program : Program Request Answer α) : andThen program done = program := by
  induction program with
  | done result => rfl
  | ask request next inductionHypothesis =>
    simp only [andThen]
    congr 1
    funext answer
    exact inductionHypothesis answer

/-- Three programs in turn may be grouped either way. -/
theorem andThen_assoc (program : Program Request Answer α) (second : α → Program Request Answer β)
    (third : β → Program Request Answer γ) :
    andThen (andThen program second) third =
      andThen program fun result => andThen (second result) third := by
  induction program with
  | done result => rfl
  | ask request next inductionHypothesis =>
    simp only [andThen]
    congr 1
    funext answer
    exact inductionHypothesis answer

instance : LawfulMonad (Program Request Answer) :=
  LawfulMonad.mk' (Program Request Answer)
    (fun program => andThen_done program)
    (fun _ _ => rfl)
    andThen_assoc

/-- Runs a program, serving each request in turn. -/
def serve {m : Type → Type} [Monad m] (answer : (asked : Request) → m (Answer asked)) :
    Program Request Answer α → m α
  | done result => pure result
  | ask asked next => do serve answer (next (← answer asked))

/-- Running one program after another serves the first and then the second. -/
theorem serve_andThen {m : Type → Type} [Monad m] [LawfulMonad m]
    (answer : (asked : Request) → m (Answer asked)) (program : Program Request Answer α)
    (after : α → Program Request Answer β) :
    serve answer (andThen program after) = serve answer program >>= fun result =>
      serve answer (after result) := by
  induction program with
  | done result => simp [andThen, serve]
  | ask asked next inductionHypothesis => simp [andThen, serve, inductionHypothesis]

end Program

end StableFleet
