import StableFleet.Proofs.Flow.Plan
import StableFleet.Proofs.Update.Assessment

/-!
# The conclusion of an update

What an update writes is decided before it writes anything. A conclusion refuses
an assessment that found anomalies without a request. Otherwise its requests are
known: the output that was asked for, and then, unless it is a dry run, the way
of the new manifest into its file or to the repository. They are carried out in
order until one of them fails, and each look at whether to stop is a step that
fails when the operation was told to.
-/

namespace StableFleet

namespace Repository

/-- The requests that make the directory of a file. -/
def parentSteps (path : Path) : List Request :=
  match path.parent? with
  | some parent => [.makeDirectories parent]
  | none => []

/-- The requests that lead up to a commit of a new manifest. -/
def stepsToCommit (repository : Repository) (checkout : Path) (contents : Bytes) : List Request :=
  .stopped :: parentSteps (checkout.join repository.manifestPath) ++
    [.writeFile (checkout.join repository.manifestPath) contents]

/-- The requests of a proposal, in order. -/
def steps (repository : Repository) (checkout : Path) (contents : Bytes) (message : String) :
    List Request :=
  repository.stepsToCommit checkout contents ++
    [.commit checkout repository.manifestPath message, .stopped,
      .push checkout repository.pushTarget]

theorem performs_makeParent (path : Path) :
    Attempt.Performs (parentSteps path) () (makeParent path) := by
  unfold parentSteps makeParent
  cases path.parent? with
  | none => exact Attempt.performs_pure ()
  | some parent =>
    refine Attempt.performs_request (.makeDirectories parent) () _ fun answer => ?_
    cases answer with
    | ok made => exact .inl ⟨rfl, rfl⟩
    | error reason => exact .inr ⟨_, rfl⟩

/-- A request whose answer is the result of the attempt is one step. -/
theorem performs_commit (checkout : Path) (path message : String) :
    Attempt.Performs [.commit checkout path message] ()
      (Attempt.ask (Flow.ask (.commit checkout path message))) := by
  refine Attempt.performs_request (.commit checkout path message) () id fun answer => ?_
  cases answer with
  | ok done => exact .inl ⟨rfl, rfl⟩
  | error error => exact .inr ⟨error, rfl⟩

theorem performs_push (checkout : Path) (target : String) :
    Attempt.Performs [.push checkout target] ()
      (Attempt.ask (Flow.ask (.push checkout target))) := by
  refine Attempt.performs_request (.push checkout target) () id fun answer => ?_
  cases answer with
  | ok done => exact .inl ⟨rfl, rfl⟩
  | error error => exact .inr ⟨error, rfl⟩

/-- A proposal carries out its steps. -/
theorem performs_propose (repository : Repository) (checkout : Path) (contents : Bytes)
    (message : String) :
    Attempt.Performs (repository.steps checkout contents message) ()
      (repository.propose checkout contents message) := by
  have listed : repository.steps checkout contents message =
      [.stopped] ++ (parentSteps (checkout.join repository.manifestPath) ++
        ([.writeFile (checkout.join repository.manifestPath) contents] ++
          ([.commit checkout repository.manifestPath message] ++
            ([.stopped] ++ [.push checkout repository.pushTarget])))) := by
    simp [steps, stepsToCommit]
  rw [listed]
  refine Attempt.performs_bind Attempt.performs_checkpoint ?_
  refine Attempt.performs_bind (performs_makeParent _) ?_
  refine Attempt.performs_bind (Attempt.performs_writeFile _ contents) ?_
  refine Attempt.performs_bind (performs_commit checkout repository.manifestPath message) ?_
  refine Attempt.performs_bind Attempt.performs_checkpoint ?_
  exact performs_push checkout repository.pushTarget

theorem obeys_propose (repository : Repository) (checkout : Path) (contents : Bytes)
    (message : String) :
    Attempt.Obeys (fun _ => True) (repository.propose checkout contents message) := by
  have makes : Attempt.Obeys (fun _ => True)
      (makeParent (checkout.join repository.manifestPath)) := by
    unfold makeParent
    split
    · exact Attempt.obeys_request trivial (fun _ => rfl) fun _ => ⟨_, rfl⟩
    · exact Attempt.obeys_pure _
  have commits : Attempt.Obeys (fun _ => True) (Attempt.ask (Flow.ask
      (.commit checkout repository.manifestPath message))) :=
    Attempt.obeys_request trivial (fun _ => rfl) fun _ => ⟨_, rfl⟩
  refine Attempt.obeys_bind (Attempt.obeys_checkpoint trivial) fun _ => ?_
  refine Attempt.obeys_bind makes fun _ => ?_
  refine Attempt.obeys_bind (Attempt.obeys_writeFile _ _ trivial) fun _ => ?_
  refine Attempt.obeys_bind commits fun _ => ?_
  refine Attempt.obeys_bind (Attempt.obeys_checkpoint trivial) fun _ => ?_
  exact Attempt.obeys_request trivial (fun _ => rfl) fun _ => ⟨_, rfl⟩

end Repository

namespace Lab

/-- The requests that write the output. -/
def outputSteps (output : Option Path) (encoded : Bytes) : List Request :=
  match output with
  | some path => [.writeFile path encoded]
  | none => []

/-- The requests that put a new manifest where it goes, in order. -/
def Destination.steps (destination : Destination) (encoded : Bytes) : List Request :=
  .stopped :: match destination with
    | .file path => [.writeFile path encoded]
    | .review repository checkout => repository.steps checkout encoded updateMessage

theorem performs_writeOutput (output : Option Path) (encoded : Bytes) :
    Attempt.Performs (outputSteps output encoded) () (writeOutput output encoded) := by
  cases output with
  | none => exact Attempt.performs_pure ()
  | some path => exact Attempt.performs_writeFile path encoded

theorem performs_deliver (destination : Destination) (encoded : Bytes) :
    Attempt.Performs (destination.steps encoded) () (deliver destination encoded) := by
  cases destination with
  | file path =>
    exact Attempt.performs_bind Attempt.performs_checkpoint
      (Attempt.performs_writeFile path encoded)
  | review repository checkout =>
    exact Attempt.performs_bind Attempt.performs_checkpoint
      (repository.performs_propose checkout encoded updateMessage)

theorem obeys_deliver (destination : Destination) (encoded : Bytes) :
    Attempt.Obeys (fun _ => True) (deliver destination encoded) := by
  refine Attempt.obeys_bind (Attempt.obeys_checkpoint trivial) fun _ => ?_
  cases destination with
  | file path => exact Attempt.obeys_writeFile path encoded trivial
  | review repository checkout => exact repository.obeys_propose checkout encoded updateMessage

end Lab

namespace Assessment

/-- The requests of the conclusion of an update without anomalies, in order. -/
def steps (assessment : Assessment) (dryRun : Bool) (output : Option Path) : List Request :=
  Lab.outputSteps output assessment.encoded ++
    if dryRun then [] else assessment.destination.steps assessment.encoded

/-- What an update that was assessed so comes to when nothing fails. -/
def completed (assessment : Assessment) (dryRun : Bool) : UpdateOutcome :=
  ⟨assessment.outcome, assessment.encoded,
    osChanges assessment.old assessment.outcome.manifest, !dryRun⟩

end Assessment

/-- Where a new manifest is written. -/
def Lab.Destination.target : Lab.Destination → Path
  | .file path => path
  | .review repository checkout => checkout.join repository.manifestPath

theorem Repository.mem_parentSteps {path : Path} {request : Request}
    (present : request ∈ Repository.parentSteps path) :
    ∃ parent, request = .makeDirectories parent := by
  unfold Repository.parentSteps at present
  split at present
  · exact ⟨_, List.mem_singleton.mp present⟩
  · cases present

theorem Lab.mem_outputSteps {output : Option Path} {encoded : Bytes} {request : Request}
    (present : request ∈ Lab.outputSteps output encoded) :
    ∃ path, output = some path ∧ request = .writeFile path encoded := by
  cases output with
  | none => cases present
  | some path => exact ⟨path, rfl, List.mem_singleton.mp present⟩

namespace Assessment

variable {assessment : Assessment} {dryRun : Bool} {output : Option Path}
  {earlier following : List Request}

/-- A dry run only writes the output. -/
theorem mem_steps_dry {request : Request} (present : request ∈ assessment.steps true output) :
    ∃ path, output = some path ∧ request = .writeFile path assessment.encoded := by
  unfold steps at present
  rw [if_pos rfl, List.append_nil] at present
  exact Lab.mem_outputSteps present

/-- Whatever is written has the canonical bytes of the new manifest, and goes to
the output or, unless it is a dry run, to where the new manifest goes. -/
theorem mem_steps_write {path : Path} {contents : Bytes}
    (present : .writeFile path contents ∈ assessment.steps dryRun output) :
    contents = assessment.encoded ∧
      (output = some path ∨ (dryRun = false ∧ path = assessment.destination.target)) := by
  rcases List.mem_append.mp present with written | delivered
  · obtain ⟨asked, same, requested⟩ := Lab.mem_outputSteps written
    cases requested
    exact ⟨rfl, .inl same⟩
  · cases dryRun with
    | true => cases delivered
    | false =>
      have placed : contents = assessment.encoded ∧ path = assessment.destination.target := by
        rw [if_neg Bool.false_ne_true] at delivered
        cases goes : assessment.destination with
        | file target =>
          rw [goes] at delivered
          simp only [Lab.Destination.steps, List.mem_cons, List.not_mem_nil, or_false,
            reduceCtorEq, false_or, Request.writeFile.injEq] at delivered
          exact ⟨delivered.2, delivered.1⟩
        | review repository checkout =>
          rw [goes] at delivered
          have notParent : Request.writeFile path contents ∉
              Repository.parentSteps (checkout.join repository.manifestPath) := by
            intro present
            obtain ⟨parent, same⟩ := Repository.mem_parentSteps present
            cases same
          simp only [Lab.Destination.steps, Repository.steps, Repository.stepsToCommit,
            List.mem_cons, List.mem_append, List.not_mem_nil, or_false, reduceCtorEq, false_or,
            notParent, Request.writeFile.injEq] at delivered
          exact ⟨delivered.2, delivered.1⟩
      exact ⟨placed.1, .inr ⟨rfl, placed.2⟩⟩

/-- A step that neither writes a file nor asks whether to stop belongs to the
delivery of a proposal, and there is one only if it is no dry run. -/
theorem steps_deliver {request : Request}
    (listed : assessment.steps dryRun output = earlier ++ request :: following)
    (other : ∀ path contents, request ≠ .writeFile path contents) (asks : request ≠ .stopped) :
    dryRun = false ∧ ∃ repository place first,
      assessment.destination = .review repository place ∧
      earlier = Lab.outputSteps output assessment.encoded ++ first ∧
      (Lab.Destination.review repository place).steps assessment.encoded =
        first ++ request :: following := by
  have notOutput : request ∉ Lab.outputSteps output assessment.encoded := by
    intro present
    obtain ⟨path, _, same⟩ := Lab.mem_outputSteps present
    exact other path _ same
  obtain ⟨first, began, rest⟩ := divides_rest listed notOutput
  cases dryRun with
  | true =>
    rw [if_pos rfl] at rest
    simp at rest
  | false =>
    rw [if_neg Bool.false_ne_true] at rest
    refine ⟨rfl, ?_⟩
    cases goes : assessment.destination with
    | file target =>
      rw [goes] at rest
      have present : request ∈ (Lab.Destination.file target).steps assessment.encoded := by
        rw [rest]
        exact List.mem_append_right _ List.mem_cons_self
      simp [Lab.Destination.steps, other, asks] at present
    | review repository place =>
      rw [goes] at rest
      exact ⟨repository, place, first, rfl, began, rest⟩

/-- A commit comes right after the new manifest was written into its checkout. -/
theorem steps_commit {checkout : Path} {path message : String}
    (listed : assessment.steps dryRun output =
      earlier ++ .commit checkout path message :: following) :
    dryRun = false ∧ ∃ repository, assessment.destination = .review repository checkout ∧
      path = repository.manifestPath ∧ message = Lab.updateMessage ∧
      ∃ start, earlier = start ++
        [.writeFile (checkout.join repository.manifestPath) assessment.encoded] := by
  obtain ⟨wet, repository, place, first, goes, rfl, delivers⟩ := steps_deliver listed nofun nofun
  have notBefore : Request.commit checkout path message ∉
      .stopped :: repository.stepsToCommit place assessment.encoded := by
    intro present
    simp only [Repository.stepsToCommit, List.mem_cons, List.mem_append, List.not_mem_nil,
      reduceCtorEq, false_or, or_false] at present
    obtain ⟨parent, same⟩ := Repository.mem_parentSteps present
    cases same
  have notAfter : Request.commit checkout path message ∉
      [.stopped, .push place repository.pushTarget] := by
    simp
  obtain ⟨rfl, same, _⟩ := divides_single (show _ ++ _ :: _ = _ from delivers) notBefore notAfter
  cases same
  refine ⟨wet, repository, goes, rfl, rfl, Lab.outputSteps output assessment.encoded ++
    (.stopped :: .stopped ::
      Repository.parentSteps (checkout.join repository.manifestPath)), ?_⟩
  simp [Repository.stepsToCommit]

/-- A push is the last step. It comes after a commit, once it was seen that the
operation was not told to stop, and no push comes before it. -/
theorem steps_push {checkout : Path} {target : String}
    (listed : assessment.steps dryRun output = earlier ++ .push checkout target :: following) :
    dryRun = false ∧ following = [] ∧ (∀ step ∈ earlier, ∀ place other, step ≠ .push place other) ∧
      ∃ repository, assessment.destination = .review repository checkout ∧
        target = repository.pushTarget ∧
        ∃ start, earlier = start ++
          [.commit checkout repository.manifestPath Lab.updateMessage, .stopped] := by
  obtain ⟨wet, repository, place, first, goes, rfl, delivers⟩ := steps_deliver listed nofun nofun
  let start := .stopped :: repository.stepsToCommit place assessment.encoded
  let commits : List Request := [.commit place repository.manifestPath Lab.updateMessage, .stopped]
  have notBefore (place' : Path) (other : String) : Request.push place' other ∉ start ++ commits := by
    intro present
    simp only [start, commits, Repository.stepsToCommit, List.mem_cons, List.mem_append,
      List.not_mem_nil, reduceCtorEq, false_or, or_false] at present
    obtain ⟨parent, same⟩ := Repository.mem_parentSteps present
    cases same
  have parts : (start ++ commits) ++ [.push place repository.pushTarget] =
      first ++ .push checkout target :: following := by
    rw [← delivers]
    simp [start, commits, Lab.Destination.steps, Repository.steps]
  obtain ⟨rfl, same, rfl⟩ := divides_single parts (notBefore _ _) (by simp)
  cases same
  refine ⟨wet, rfl, ?_, repository, goes, rfl,
    Lab.outputSteps output assessment.encoded ++ start, by simp [commits]⟩
  rintro step present place' other rfl
  rcases List.mem_append.mp present with written | delivered
  · obtain ⟨path, _, same⟩ := Lab.mem_outputSteps written
    cases same
  · exact notBefore place' other delivered

end Assessment

namespace Lab

/-- A conclusion refuses what has anomalies, and makes no request then. -/
theorem conclude_refuses {σ : Type} (host : Host σ) (dryRun : Bool) (output : Option Path)
    {assessment : Assessment} (anomalous : assessment.report ≠ {}) (run : Run σ) :
    ((conclude dryRun output assessment).perform host run).1 =
        .error (.anomalies assessment.report.count assessment.report) ∧
      (conclude dryRun output assessment).exchanges host run = [] := by
  have some : assessment.report.count ≠ 0 := by
    intro none
    exact anomalous ((Report.count_eq_zero_iff _).mp none)
  have refuses : conclude dryRun output assessment =
      throw (.anomalies assessment.report.count assessment.report) := by
    unfold conclude refuseAnomalies
    rw [if_neg some]
    rfl
  rw [refuses]
  exact ⟨rfl, rfl⟩

/-- A conclusion without anomalies writes the output and then delivers the new
manifest, unless it is a dry run. -/
theorem conclude_eq (dryRun : Bool) (output : Option Path) {assessment : Assessment}
    (clean : assessment.report = {}) :
    conclude dryRun output assessment =
      writeOutput output assessment.encoded >>= fun _ =>
        (if dryRun then pure () else deliver assessment.destination assessment.encoded) >>= fun _ =>
          pure (assessment.completed dryRun) := by
  unfold conclude refuseAnomalies
  rw [if_pos ((Report.count_eq_zero_iff _).mpr clean)]
  cases dryRun <;> rfl

/-- A conclusion without anomalies carries out its steps. -/
theorem performs_conclude (dryRun : Bool) (output : Option Path) {assessment : Assessment}
    (clean : assessment.report = {}) :
    Attempt.Performs (assessment.steps dryRun output) (assessment.completed dryRun)
      (conclude dryRun output assessment) := by
  rw [conclude_eq dryRun output clean]
  refine Attempt.performs_bind (performs_writeOutput output assessment.encoded) ?_
  cases dryRun with
  | true => exact Attempt.performs_pure _
  | false =>
    have delivers : assessment.destination.steps assessment.encoded =
        assessment.destination.steps assessment.encoded ++ [] := by rw [List.append_nil]
    refine delivers ▸ Attempt.performs_bind (performs_deliver _ _) ?_
    exact Attempt.performs_pure (assessment.completed false)

theorem obeys_conclude (dryRun : Bool) (output : Option Path) (assessment : Assessment) :
    Attempt.Obeys (fun _ => True) (conclude dryRun output assessment) := by
  have refuses : Attempt.Obeys (fun _ => True) (refuseAnomalies assessment.report) := by
    unfold refuseAnomalies
    split
    · exact Attempt.obeys_pure _
    · exact Attempt.obeys_throw _
  have writes : Attempt.Obeys (fun _ => True) (writeOutput output assessment.encoded) := by
    cases output with
    | none => exact Attempt.obeys_pure _
    | some path => exact Attempt.obeys_writeFile path _ trivial
  refine Attempt.obeys_bind refuses fun _ => Attempt.obeys_bind writes fun _ => ?_
  cases dryRun with
  | true => exact Attempt.obeys_pure _
  | false =>
    exact Attempt.obeys_bind (obeys_deliver _ _) fun _ => Attempt.obeys_pure _

/-- Writing the output fails only by the file. -/
theorem writeOutput_error {σ : Type} {host : Host σ} {output : Option Path} {encoded : Bytes}
    {run : Run σ} {error : Error}
    (failed : ((writeOutput output encoded).perform host run).1 = .error error) :
    ∃ reason, error = .file reason := by
  cases output with
  | none => cases failed
  | some path =>
    have answered : ((writeOutput (some path) encoded).perform host run).1 =
        (Run.serve host (.writeFile path encoded) run).1.mapError Error.file := rfl
    rw [answered] at failed
    cases written : (Run.serve host (.writeFile path encoded) run).1 with
    | ok _ =>
      rw [written] at failed
      cases failed
    | error reason =>
      rw [written] at failed
      cases failed
      exact ⟨reason, rfl⟩

/-- A conclusion of an operation that was told to stop writes the output at most,
unless it is a dry run. -/
theorem conclude_told {σ : Type} (host : Host σ) (output : Option Path) {assessment : Assessment}
    (clean : assessment.report = {}) {run : Run σ} (told : run.stopped = true) :
    (((conclude false output assessment).perform host run).1 = .error .cancelled ∨
      ∃ reason, ((conclude false output assessment).perform host run).1 = .error (.file reason)) ∧
    ∀ exchange ∈ (conclude false output assessment).exchanges host run,
      exchange.request.publishes = true →
        exchange.request ∈ outputSteps output assessment.encoded := by
  have written := performs_writeOutput output assessment.encoded host run
  have carried : CarriedOut (outputSteps output assessment.encoded)
      ((writeOutput output assessment.encoded).exchanges host run) := by
    rcases written with ⟨_, completed⟩ | ⟨_, _, carried⟩
    · exact completed.carriedOut
    · exact carried
  rw [conclude_eq false output clean]
  rcases Attempt.bind_cases host (writeOutput output assessment.encoded) (fun _ =>
      deliver assessment.destination assessment.encoded >>= fun _ =>
        pure (assessment.completed false)) run with
    ⟨error, failed, performed, exchanged⟩ | ⟨_, _, performed, exchanged⟩
  · obtain ⟨reason, rfl⟩ := writeOutput_error failed
    refine ⟨.inr ⟨reason, congrArg Prod.fst performed⟩, ?_⟩
    intro exchange present _
    exact carried.mem_steps (exchanged ▸ present)
  · have still : ((writeOutput output assessment.encoded).perform host run).2.stopped = true :=
      Flow.run_stopped host _ run told
    obtain ⟨looked, asked⟩ := Attempt.checkpoint_told host still
    have delivers : ((deliver assessment.destination assessment.encoded).perform host
          ((writeOutput output assessment.encoded).perform host run).2).1 = .error .cancelled ∧
        (deliver assessment.destination assessment.encoded).exchanges host
          ((writeOutput output assessment.encoded).perform host run).2 =
            Attempt.checkpoint.exchanges host
              ((writeOutput output assessment.encoded).perform host run).2 :=
      Attempt.bind_error _ looked
    obtain ⟨failed, stopped⟩ :=
      Attempt.bind_error (fun _ => pure (assessment.completed false)) delivers.1
    refine ⟨.inl ((congrArg Prod.fst performed).trans failed), ?_⟩
    intro exchange present publishes
    have parts := exchanged.trans (congrArg (_ ++ ·) (stopped.trans (delivers.2.trans asked)))
    rcases List.mem_append.mp (parts ▸ present) with before | last
    · exact carried.mem_steps before
    · rw [List.mem_singleton.mp last] at publishes
      cases publishes

end Lab

end StableFleet
