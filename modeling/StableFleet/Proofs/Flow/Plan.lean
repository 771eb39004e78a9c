import StableFleet.Proofs.Flow.Exchange

/-!
# Steps that are carried out in order

A part of a flow may be known in advance: a list of requests that are made in
turn as long as each of them succeeds. Its exchanges then are a beginning of
that list in which every exchange but the last succeeded. When all of them
succeeded, the part has a result.

What precedes an exchange of such a part, and what can still follow it, is read
off the list.
-/

namespace StableFleet

section Division

variable {α : Type} {opening middle ending rest before after : List α} {element : α}

/-- An element that is not in the first part of a list divides what follows that
part. -/
theorem divides_rest (same : opening ++ rest = before ++ element :: after)
    (absent : element ∉ opening) :
    ∃ first, before = opening ++ first ∧ rest = first ++ element :: after := by
  rcases List.append_eq_append_iff.mp same with ⟨first, parts, remains⟩ | ⟨cut, parts, remains⟩
  · exact ⟨first, parts, remains⟩
  · cases cut with
    | nil => exact ⟨[], by simp [parts], remains.symm⟩
    | cons head cut =>
      obtain ⟨rfl, _⟩ := List.cons.inj remains
      rw [parts] at absent
      exact absurd (List.mem_append_right before List.mem_cons_self) absent

/-- An element of a list in three parts that is neither in the first nor in the
last part divides the middle one. -/
theorem divides_middle (same : opening ++ (middle ++ ending) = before ++ element :: after)
    (notOpening : element ∉ opening) (notEnding : element ∉ ending) :
    ∃ first last, middle = first ++ element :: last ∧ before = opening ++ first ∧
      after = last ++ ending := by
  obtain ⟨first, began, rest⟩ := divides_rest same notOpening
  rcases List.append_eq_append_iff.mp rest with ⟨cut, _, ended⟩ | ⟨last, parts, ended⟩
  · rw [ended] at notEnding
    exact absurd (List.mem_append_right cut List.mem_cons_self) notEnding
  · cases last with
    | nil =>
      rw [← show element :: after = ending from ended] at notEnding
      exact absurd List.mem_cons_self notEnding
    | cons head last =>
      obtain ⟨rfl, left⟩ := List.cons.inj ended
      exact ⟨first, last, parts, began, left⟩

/-- An element that occurs neither before nor after one place of a list is the
one at that place. -/
theorem divides_single {single : α} (same : opening ++ single :: ending = before ++ element :: after)
    (notOpening : element ∉ opening) (notEnding : element ∉ ending) :
    before = opening ∧ element = single ∧ after = ending := by
  obtain ⟨first, last, alone, rfl, rfl⟩ :=
    divides_middle (show opening ++ ([single] ++ ending) = _ from same) notOpening notEnding
  cases first with
  | nil =>
    obtain ⟨rfl, rfl⟩ := List.cons.inj alone
    exact ⟨List.append_nil _, rfl, rfl⟩
  | cons head first =>
    have short := congrArg List.length alone
    simp at short

end Division

/-- Whether a request was answered so that the next one may follow. -/
def Request.succeeds : (request : Request) → request.Answer → Bool
  | .stopped, told => !told
  | .download .., answer => answer.isOk
  | .probe .., answer => answer.isOk
  | .readObject .., answer => answer.isOk
  | .readAddress .., answer => answer.isOk
  | .clone .., answer => answer.isOk
  | .fetch .., answer => answer.isOk
  | .showFile .., answer => answer.isOk
  | .commit .., answer => answer.isOk
  | .push .., answer => answer.isOk
  | .makeScratch, answer => answer.isOk
  | .dropScratch .., _ => true
  | .readFile .., answer => answer.isOk
  | .writeFile .., answer => answer.isOk
  | .makeDirectories .., answer => answer.isOk

/-- Whether an exchange succeeded. -/
def Exchange.succeeded (exchange : Exchange) : Bool :=
  exchange.request.succeeds exchange.answer

/-- To look whether to stop succeeds when the operation was not told to. -/
theorem Exchange.eq_of_stopped {exchange : Exchange} (requested : exchange.request = .stopped)
    (succeeded : exchange.succeeded = true) : exchange = ⟨.stopped, false⟩ := by
  obtain ⟨request, answer⟩ := exchange
  subst requested
  cases answer with
  | false => rfl
  | true => cases succeeded

/-- Exchanges are the first of some steps in order, and each of them but the last
succeeded. -/
def CarriedOut : List Request → List Exchange → Prop
  | _, [] => True
  | [], _ :: _ => False
  | step :: steps, exchange :: rest =>
    exchange.request = step ∧ (rest ≠ [] → exchange.succeeded = true) ∧ CarriedOut steps rest

/-- Exchanges are all of some steps in order, and each of them succeeded. -/
def Completed (steps : List Request) (exchanges : List Exchange) : Prop :=
  exchanges.map (·.request) = steps ∧ ∀ exchange ∈ exchanges, exchange.succeeded = true

namespace CarriedOut

variable {steps later : List Request} {exchanges rest : List Exchange}

/-- What is a beginning of some steps is a beginning of more steps. -/
theorem append_steps (carried : CarriedOut steps exchanges) :
    CarriedOut (steps ++ later) exchanges := by
  induction steps generalizing exchanges with
  | nil =>
    cases exchanges with
    | nil => cases later <;> trivial
    | cons exchange rest => exact carried.elim
  | cons step steps inductionHypothesis =>
    cases exchanges with
    | nil => trivial
    | cons exchange rest => exact ⟨carried.1, carried.2.1, inductionHypothesis carried.2.2⟩

/-- Once some steps are completed, a beginning of others may follow. -/
theorem append (completed : Completed steps exchanges) (carried : CarriedOut later rest) :
    CarriedOut (steps ++ later) (exchanges ++ rest) := by
  induction exchanges generalizing steps with
  | nil =>
    have none : steps = [] := completed.1.symm
    exact none ▸ carried
  | cons exchange exchanges inductionHypothesis =>
    obtain ⟨requested, succeeded⟩ := completed
    subst requested
    refine ⟨rfl, fun _ => succeeded exchange List.mem_cons_self, ?_⟩
    exact inductionHypothesis ⟨rfl, fun other present =>
      succeeded other (List.mem_cons_of_mem _ present)⟩

/-- Before an exchange of steps that are carried out stand the steps before it,
all completed, and after it come beginnings of the steps after it. -/
theorem split {before after : List Exchange} {exchange : Exchange}
    (carried : CarriedOut steps (before ++ exchange :: after)) :
    ∃ earlier following, steps = earlier ++ exchange.request :: following ∧
      Completed earlier before ∧ CarriedOut following after := by
  induction before generalizing steps with
  | nil =>
    cases steps with
    | nil => exact carried.elim
    | cons step steps =>
      obtain ⟨rfl, _, remaining⟩ := carried
      exact ⟨[], steps, rfl, ⟨rfl, by simp⟩, remaining⟩
  | cons first before inductionHypothesis =>
    cases steps with
    | nil => exact carried.elim
    | cons step steps =>
      obtain ⟨rfl, succeeded, remaining⟩ := carried
      obtain ⟨earlier, following, listed, completed, left⟩ := inductionHypothesis remaining
      refine ⟨first.request :: earlier, following, by rw [listed]; rfl, ⟨?_, ?_⟩, left⟩
      · exact congrArg (first.request :: ·) completed.1
      · intro exchange present
        rcases List.mem_cons.mp present with rfl | present
        · exact succeeded (by simp)
        · exact completed.2 exchange present

/-- A request that is made is one of the steps. -/
theorem mem_steps (carried : CarriedOut steps exchanges) {exchange : Exchange}
    (present : exchange ∈ exchanges) : exchange.request ∈ steps := by
  obtain ⟨before, after, rfl⟩ := List.append_of_mem present
  obtain ⟨earlier, following, rfl, _⟩ := split carried
  exact List.mem_append_right _ List.mem_cons_self

end CarriedOut

/-- The completed steps of two parts, one after the other. -/
theorem Completed.append {steps later : List Request} {exchanges rest : List Exchange}
    (first : Completed steps exchanges) (second : Completed later rest) :
    Completed (steps ++ later) (exchanges ++ rest) := by
  refine ⟨by rw [List.map_append, first.1, second.1], ?_⟩
  intro exchange present
  rcases List.mem_append.mp present with earlier | following
  · exact first.2 exchange earlier
  · exact second.2 exchange following

/-- Completed steps are carried out. -/
theorem Completed.carriedOut {steps : List Request} {exchanges : List Exchange}
    (completed : Completed steps exchanges) : CarriedOut steps exchanges := by
  have whole : CarriedOut (steps ++ []) (exchanges ++ []) := CarriedOut.append completed trivial
  rw [List.append_nil, List.append_nil] at whole
  exact whole

/-- Completed steps divide where their list does. -/
theorem Completed.divide {steps later : List Request} {exchanges : List Exchange}
    (completed : Completed (steps ++ later) exchanges) :
    ∃ first second, exchanges = first ++ second ∧ Completed steps first ∧
      Completed later second := by
  obtain ⟨first, second, rfl, requested, remaining⟩ := List.map_eq_append_iff.mp completed.1
  refine ⟨first, second, rfl, ⟨requested, ?_⟩, ⟨remaining, ?_⟩⟩
  · intro exchange present
    exact completed.2 exchange (List.mem_append_left _ present)
  · intro exchange present
    exact completed.2 exchange (List.mem_append_right _ present)

/-- A single completed step is one successful exchange. -/
theorem Completed.single {step : Request} {exchanges : List Exchange}
    (completed : Completed [step] exchanges) :
    ∃ exchange, exchanges = [exchange] ∧ exchange.request = step ∧ exchange.succeeded = true := by
  obtain ⟨exchange, rest, rfl, requested, none⟩ := List.map_eq_cons_iff.mp completed.1
  obtain rfl : rest = [] := List.map_eq_nil_iff.mp none
  exact ⟨exchange, rfl, requested, completed.2 exchange List.mem_cons_self⟩

namespace Attempt

variable {α β : Type}

/-- However it is answered, an attempt completes some steps and has a given
result, or fails after a beginning of them. -/
def Performs (steps : List Request) (result : α) (attempt : Attempt α) : Prop :=
  ∀ ⦃σ : Type⦄ (host : Host σ) (run : Run σ),
    ((attempt.perform host run).1 = .ok result ∧ Completed steps (attempt.exchanges host run)) ∨
    (∃ error, (attempt.perform host run).1 = .error error ∧
      CarriedOut steps (attempt.exchanges host run))

theorem performs_pure (result : α) : Performs [] result (pure result : Attempt α) :=
  fun _ _ _ => .inl ⟨rfl, rfl, by simp [exchanges]⟩

/-- The steps of one attempt after another are those of the first and then those
of the second. -/
theorem performs_bind {steps later : List Request} {result : α} {other : β} {attempt : Attempt α}
    {after : α → Attempt β} (first : Performs steps result attempt)
    (second : Performs later other (after result)) :
    Performs (steps ++ later) other (attempt >>= after) := by
  intro σ host run
  rcases bind_cases host attempt after run with
    ⟨error, failed, performed, exchanged⟩ | ⟨found, got, performed, exchanged⟩
  · rcases first host run with ⟨succeeded, _⟩ | ⟨_, _, carried⟩
    · rw [failed] at succeeded
      cases succeeded
    · refine .inr ⟨error, by rw [performed], ?_⟩
      rw [exchanged]
      exact carried.append_steps
  · rcases first host run with ⟨succeeded, completed⟩ | ⟨_, failed, _⟩
    · have same : found = result := Except.ok.inj (got.symm.trans succeeded)
      subst same
      rw [performed, exchanged]
      rcases second host (attempt.perform host run).2 with ⟨done, remaining⟩ | ⟨error, failed, carried⟩
      · exact .inl ⟨done, completed.append remaining⟩
      · exact .inr ⟨error, failed, CarriedOut.append completed carried⟩
    · rw [got] at failed
      cases failed

/-- A single request is a single step, when its answers are turned into results
of the attempt by whether they succeeded. -/
theorem performs_request (request : Request) (result : α) (convert : request.Answer → Except Error α)
    (exact : ∀ answer, (request.succeeds answer = true ∧ convert answer = .ok result) ∨
      ∃ error, convert answer = .error error) :
    Performs [request] result
      (ExceptT.mk (Flow.ask request >>= fun answer => pure (convert answer))) := by
  intro σ host run
  rcases exact (Run.serve host request run).1 with ⟨succeeded, converted⟩ | ⟨error, converted⟩
  · refine .inl ⟨converted, rfl, ?_⟩
    intro exchange present
    have same : exchange = ⟨request, (Run.serve host request run).1⟩ := List.mem_singleton.mp present
    exact same ▸ succeeded
  · exact .inr ⟨error, converted, rfl, fun more => absurd rfl more, trivial⟩

theorem performs_checkpoint : Performs [.stopped] () checkpoint := by
  refine performs_request .stopped () _ fun told => ?_
  cases told with
  | false => exact .inl ⟨rfl, rfl⟩
  | true => exact .inr ⟨.cancelled, rfl⟩

theorem performs_writeFile (path : Path) (contents : Bytes) :
    Performs [.writeFile path contents] () (writeFile path contents) := by
  refine performs_request (.writeFile path contents) () _ fun answer => ?_
  cases answer with
  | ok written => exact .inl ⟨rfl, rfl⟩
  | error reason => exact .inr ⟨_, rfl⟩

end Attempt

end StableFleet
