import StableFleet.Proofs.Archive.Window
import StableFleet.Proofs.Flow.Course

/-!
# Attempts that look and check

Attempts are made one after another, or alongside each other. In the latter case all are made,
whatever the first of them comes to. What holds of the parts of such attempts and is passed on
in both ways holds of the whole: that it asks for nothing but what its parts ask for; that it
fails only when a look tells it to stop; and that it gives the result which follows from what
its checks find.

A probe is a look and a check. Why a check fails makes no difference to it.
-/

namespace StableFleet

open BundleQuery (found)

variable {α β : Type}

/-- An exchange does not tell the operation to stop, and a check of an object in it finds what it
is said to find. -/
def Exchange.Agrees (checks : String → Except Error Bool) : Exchange → Prop
  | ⟨.stopped, told⟩ => told = false
  | ⟨.probe _ path, reply⟩ => reply = checks path
  | _ => True

/-- Exchanges agree with checks when their answers never tell the operation to stop, and are
those of the checks. -/
theorem Exchange.agrees {checks : String → Except Error Bool}
    {answers : (request : Request) → request.Answer} (untold : answers .stopped = false)
    (checked : ∀ backend path, answers (.probe backend path) = checks path) {exchange : Exchange}
    (answered : exchange.answer = answers exchange.request) : exchange.Agrees checks := by
  obtain ⟨request, answer⟩ := exchange
  obtain rfl : answer = answers request := answered
  cases request with
  | stopped => exact untold
  | probe backend path => exact checked backend path
  | _ => exact trivial

/-- An exchange with a check that fails taken for one that does not find the object. -/
def Exchange.settled : Exchange → Exchange
  | ⟨.probe backend path, reply⟩ => ⟨.probe backend path, .ok (found reply)⟩
  | exchange => exchange

namespace Flow

/-- A property of flows that those have which do nothing, and that one flow after another has
when both have it. -/
structure Composes (holds : (α : Type) → Flow α → Prop) : Prop where
  pure : ∀ {α : Type} (result : α), holds α (Pure.pure result)
  bind : ∀ {α β : Type} {flow : Flow α} {after : α → Flow β}, holds α flow →
    (∀ result, holds β (after result)) → holds β (flow >>= after)

/-- A flow asks for what is allowed only, however it is answered. -/
def Asks (allowed : Request → Prop) (flow : Flow α) : Prop :=
  ∀ exchanges result, Course flow exchanges result →
    ∀ exchange ∈ exchanges, allowed exchange.request

/-- Flows that ask for what is allowed compose. -/
theorem composes_asks {allowed : Request → Prop} : Composes fun _ flow => Asks allowed flow where
  pure result exchanges other course := by
    obtain ⟨rfl, _⟩ := course_pure course
    exact List.forall_mem_nil _
  bind first second exchanges result course := by
    obtain ⟨before, later, middle, rfl, began, ended⟩ := course_bind course
    exact List.forall_mem_append.mpr
      ⟨first before middle began, second middle later result ended⟩

/-- A flow comes to the same when checks that fail do not find the object instead. -/
def Indifferent (flow : Flow α) : Prop :=
  ∀ exchanges result, Course flow exchanges result →
    Course flow (exchanges.map Exchange.settled) result

/-- Flows that are indifferent to why a check fails compose. -/
theorem composes_indifferent : Composes fun _ flow => Indifferent flow where
  pure result exchanges other course := by
    obtain ⟨rfl, rfl⟩ := course_pure course
    exact .done other
  bind first second exchanges result course := by
    obtain ⟨before, later, middle, rfl, began, ended⟩ := course_bind course
    rw [List.map_append]
    exact (first before middle began).andThen (second middle later result ended)

end Flow

namespace Attempt

/-- Attempts that are all made, whatever the first of them comes to. -/
def alongside (first : Attempt α) (others : Attempt (List α)) : Attempt (List α) :=
  ExceptT.mk do
    let first ← first.run
    let others ← others.run
    return do return (← first) :: (← others)

/-- A course of attempts alongside each other is a course of the first and then one of the
others. They succeed together. -/
theorem course_alongside {first : Attempt α} {others : Attempt (List α)}
    {exchanges : List Exchange} {answer : Except Error (List α)}
    (course : Flow.Course (alongside first others).run exchanges answer) :
    ∃ before later here there, exchanges = before ++ later ∧
      Flow.Course first.run before here ∧ Flow.Course others.run later there ∧
        answer = do return (← here) :: (← there) := by
  obtain ⟨before, rest, here, rfl, began, goes⟩ := Flow.course_bind course
  obtain ⟨later, last, there, rfl, ended, final⟩ := Flow.course_bind goes
  obtain ⟨rfl, rfl⟩ := Flow.course_pure final
  rw [List.append_nil]
  exact ⟨before, later, here, there, rfl, began, ended, rfl⟩

/-- A property of attempts that those have which do nothing, and that attempts made one after
another or alongside each other have when each has it. -/
structure Composes (holds : (α : Type) → Attempt α → Prop) : Prop where
  pure : ∀ {α : Type} (result : α), holds α (Pure.pure result)
  bind : ∀ {α β : Type} {attempt : Attempt α} {after : α → Attempt β}, holds α attempt →
    (∀ result, holds β (after result)) → holds β (attempt >>= after)
  alongside : ∀ {α : Type} {first : Attempt α} {others : Attempt (List α)}, holds α first →
    holds _ others → holds _ (alongside first others)

/-- Attempts are flows, one after another, also when they are made alongside each other. -/
theorem Composes.ofFlow {holds : (α : Type) → Flow α → Prop} (composes : Flow.Composes holds) :
    Composes fun α attempt => holds (Except Error α) attempt.run where
  pure result := composes.pure (Except.ok result)
  bind first second := by
    refine composes.bind first fun answer => ?_
    cases answer with
    | error error => exact composes.pure (Except.error error)
    | ok result => exact second result
  alongside first others :=
    composes.bind first fun _ => composes.bind others fun _ => composes.pure _

/-- An attempt fails when a look tells it to stop, and says so; it succeeds when none does. -/
def Attends (attempt : Attempt α) : Prop :=
  ∀ exchanges answer, Flow.Course attempt.run exchanges answer →
    (⟨.stopped, true⟩ ∈ exchanges ∧ answer = .error .cancelled) ∨
      ⟨.stopped, true⟩ ∉ exchanges ∧ ∃ result, answer = .ok result

/-- Attempts that fail only when a look tells them to stop compose. -/
theorem composes_attends : Composes fun _ attempt => Attends attempt where
  pure result exchanges answer course := by
    obtain ⟨rfl, rfl⟩ := Flow.course_pure course
    exact .inr ⟨List.not_mem_nil, result, rfl⟩
  bind first second exchanges answer course := by
    obtain ⟨before, later, middle, rfl, began, ended⟩ := Flow.course_bind course
    rcases first before middle began with ⟨told, rfl⟩ | ⟨untold, result, rfl⟩
    · cases ended
      exact .inl ⟨List.mem_append_left _ told, rfl⟩
    · rcases second result later answer ended with ⟨told, stopped⟩ | ⟨untoldLater, goesOn⟩
      · exact .inl ⟨List.mem_append_right _ told, stopped⟩
      · exact .inr ⟨fun told => (List.mem_append.mp told).elim untold untoldLater, goesOn⟩
  alongside first others exchanges answer course := by
    obtain ⟨before, later, here, there, rfl, began, ended, rfl⟩ := course_alongside course
    rcases first before here began with ⟨told, rfl⟩ | ⟨untold, result, rfl⟩
    · exact .inl ⟨List.mem_append_left _ told, rfl⟩
    · rcases others later there ended with ⟨told, rfl⟩ | ⟨untoldLater, results, rfl⟩
      · exact .inl ⟨List.mem_append_right _ told, rfl⟩
      · exact .inr ⟨fun told => (List.mem_append.mp told).elim untold untoldLater,
          result :: results, rfl⟩

/-- An attempt gives a result: it comes to it unless it is told to stop, if each check finds
what it is said to find. -/
def Gives (checks : String → Except Error Bool) (attempt : Attempt α) (result : α) : Prop :=
  ∀ exchanges answer, Flow.Course attempt.run exchanges answer →
    (∀ exchange ∈ exchanges, exchange.Agrees checks) → answer = .ok result

variable {checks : String → Except Error Bool}

theorem gives_pure (result : α) : Gives checks (pure result) result := by
  intro exchanges answer course _
  obtain ⟨_, rfl⟩ := Flow.course_pure course
  rfl

theorem Gives.bind {attempt : Attempt α} {after : α → Attempt β} {middle : α} {result : β}
    (first : Gives checks attempt middle) (second : Gives checks (after middle) result) :
    Gives checks (attempt >>= after) result := by
  intro exchanges answer course agree
  obtain ⟨before, later, between, rfl, began, ended⟩ := Flow.course_bind course
  obtain ⟨agreeHere, agreeLater⟩ := List.forall_mem_append.mp agree
  obtain rfl := first before between began agreeHere
  exact second later answer ended agreeLater

theorem Gives.alongside {attempt : Attempt α} {others : Attempt (List α)} {result : α}
    {results : List α} (first : Gives checks attempt result) (rest : Gives checks others results) :
    Gives checks (Attempt.alongside attempt others) (result :: results) := by
  intro exchanges answer course agree
  obtain ⟨before, later, here, there, rfl, began, ended, rfl⟩ := course_alongside course
  obtain ⟨agreeHere, agreeLater⟩ := List.forall_mem_append.mp agree
  obtain rfl := first before here began agreeHere
  obtain rfl := rest later there ended agreeLater
  rfl

/-- A look that an attempt makes whether it was told to stop is one exchange. -/
theorem course_checkpoint {exchanges : List Exchange} {answer : Except Error Unit}
    (course : Flow.Course checkpoint.run exchanges answer) :
    ∃ told : Bool, exchanges = [⟨.stopped, told⟩] ∧
      answer = if told then .error .cancelled else .ok () := by
  cases course with
  | ask told rest =>
    obtain ⟨rfl, rfl⟩ := Flow.course_pure rest
    exact ⟨told, rfl, rfl⟩

theorem attends_checkpoint : Attends checkpoint := by
  intro exchanges answer course
  obtain ⟨told, rfl, rfl⟩ := course_checkpoint course
  cases told with
  | true => exact .inl ⟨List.mem_cons_self, rfl⟩
  | false => exact .inr ⟨by simp, (), rfl⟩

theorem gives_checkpoint : Gives checks checkpoint () := by
  intro exchanges answer course agree
  obtain ⟨told, rfl, rfl⟩ := course_checkpoint course
  have untold : told = false := agree _ List.mem_cons_self
  rw [untold]
  rfl

theorem asks_checkpoint {allowed : Request → Prop} (looks : allowed .stopped) :
    Flow.Asks allowed checkpoint.run := by
  intro exchanges answer course
  obtain ⟨told, rfl, _⟩ := course_checkpoint course
  exact List.forall_mem_singleton.mpr looks

theorem indifferent_checkpoint : Flow.Indifferent checkpoint.run := by
  intro exchanges answer course
  obtain ⟨told, rfl, _⟩ := course_checkpoint course
  exact course

end Attempt

namespace ArchiveReader

/-- A probe is told to stop when it looks, or goes by what the check finds. -/
theorem course_probe {reader : ArchiveReader} {candidate : String} {exchanges : List Exchange}
    {answer : Except Error Bool}
    (course : Flow.Course (reader.probe candidate).run exchanges answer) :
    (exchanges = [⟨.stopped, true⟩] ∧ answer = .error .cancelled) ∨
      ∃ reply, exchanges = [⟨.stopped, false⟩, ⟨.probe reader.backend candidate, reply⟩] ∧
        answer = .ok (found reply) := by
  obtain ⟨before, later, looked, rfl, began, goes⟩ := Flow.course_bind course
  obtain ⟨told, rfl, rfl⟩ := Attempt.course_checkpoint began
  cases told with
  | true =>
    cases goes
    exact .inl ⟨rfl, rfl⟩
  | false =>
    cases goes with
    | ask reply rest =>
      cases reply with
      | ok has =>
        cases rest
        exact .inr ⟨.ok has, rfl, rfl⟩
      | error error =>
        cases rest
        exact .inr ⟨.error error, rfl, rfl⟩

section Probe

variable (reader : ArchiveReader) (candidate : String)

theorem attends_probe : (reader.probe candidate).Attends := by
  intro exchanges answer course
  rcases course_probe course with ⟨rfl, rfl⟩ | ⟨reply, rfl, rfl⟩
  · exact .inl ⟨List.mem_cons_self, rfl⟩
  · exact .inr ⟨by simp, found reply, rfl⟩

theorem gives_probe (checks : String → Except Error Bool) :
    (reader.probe candidate).Gives checks (found (checks candidate)) := by
  intro exchanges answer course agree
  rcases course_probe course with ⟨rfl, _⟩ | ⟨reply, rfl, rfl⟩
  · exact absurd (agree _ List.mem_cons_self) Bool.noConfusion
  · have checked : reply = checks candidate :=
      agree _ (List.mem_cons_of_mem _ List.mem_cons_self)
    rw [checked]

theorem asks_probe {allowed : Request → Prop} (looks : allowed .stopped)
    (checks : allowed (.probe reader.backend candidate)) :
    Flow.Asks allowed (reader.probe candidate).run := by
  intro exchanges answer course
  rcases course_probe course with ⟨rfl, _⟩ | ⟨reply, rfl, _⟩
  · exact List.forall_mem_singleton.mpr looks
  · exact List.forall_mem_cons.mpr ⟨looks, List.forall_mem_singleton.mpr checks⟩

/-- A probe goes by whether the check finds the object, and not by why it does not. -/
theorem indifferent_probe : Flow.Indifferent (reader.probe candidate).run := by
  intro exchanges answer course
  rcases course_probe course with ⟨rfl, _⟩ | ⟨reply, rfl, rfl⟩
  · exact course
  · have looked : Flow.Course Attempt.checkpoint.run [⟨.stopped, false⟩] (.ok ()) :=
      (Flow.course_ask .stopped false).andThen (.done _)
    have checked := Flow.course_ask (.probe reader.backend candidate) (.ok (found reply))
    exact looked.andThen (checked.andThen (.done _))

end Probe

end ArchiveReader

end StableFleet
