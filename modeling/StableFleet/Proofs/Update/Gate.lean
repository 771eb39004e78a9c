import StableFleet.Proofs.Update.Conclusion

/-!
# The gate of an update

The exchanges of an update have three parts: an opening that only looks, a
closing that carries out the steps of the conclusion, and the removal of the
scratch directory. The closing is empty when the assessment failed or found
anomalies. So what an update can have done to the world is read off the list of
the steps, whatever its surroundings answered and whenever they told it to stop.
-/

namespace StableFleet

/-- Whether a request is one to version control. -/
def Request.usesVersionControl : Request → Bool
  | .clone .. | .fetch .. | .showFile .. | .commit .. | .push .. => true
  | _ => false

namespace Lab

variable {σ : Type}

/-- What the assessment of an update comes to, and the run that it leaves. -/
def assessment (host : Host σ) (lab : Lab) (source : ManifestSource) (feed : String)
    (run : Run σ) : Except Error Assessment × Run σ :=
  match (Run.serve host .makeScratch run).1 with
  | .error reason => (.error (.file reason), (Run.serve host .makeScratch run).2)
  | .ok workdir =>
    (lab.assess source feed workdir).perform host (Run.serve host .makeScratch run).2

/-- What an update comes to after its assessment. -/
def concluded (host : Host σ) (dryRun : Bool) (output : Option Path) :
    Except Error Assessment × Run σ → Except Error UpdateOutcome
  | (.error error, _) => .error error
  | (.ok assessment, left) => ((conclude dryRun output assessment).perform host left).1

/-- The exchanges of an update after its assessment. -/
def closing (host : Host σ) (dryRun : Bool) (output : Option Path) :
    Except Error Assessment × Run σ → List Exchange
  | (.error _, _) => []
  | (.ok assessment, left) => (conclude dryRun output assessment).exchanges host left

/-- An assessment that succeeds is grounded. -/
theorem assessment_grounded {host : Host σ} {lab : Lab} {source : ManifestSource} {feed : String}
    {run : Run σ} {assessment : Assessment}
    (assessed : (lab.assessment host source feed run).1 = .ok assessment) :
    ∃ workdir, assessment.Grounded host lab source feed workdir := by
  unfold Lab.assessment at assessed
  split at assessed
  · cases assessed
  · exact ⟨_, grounded_of_assess assessed⟩

/-- An assessment and its conclusion in turn. -/
theorem assess_then_conclude (host : Host σ) (lab : Lab) (source : ManifestSource) (feed : String)
    (dryRun : Bool) (output : Option Path) (workdir : Path) (run : Run σ) :
    let assessed := (lab.assess source feed workdir).perform host run
    ((lab.assess source feed workdir >>= conclude dryRun output).perform host run).1 =
        concluded host dryRun output assessed ∧
      (lab.assess source feed workdir >>= conclude dryRun output).exchanges host run =
        (lab.assess source feed workdir).exchanges host run ++
          closing host dryRun output assessed := by
  intro assessed
  have parts : assessed = (assessed.1, assessed.2) := rfl
  rcases Attempt.bind_cases host (lab.assess source feed workdir) (conclude dryRun output) run with
    ⟨error, failed, performed, exchanged⟩ | ⟨assessment, got, performed, exchanged⟩
  · rw [performed, exchanged, parts, show assessed.1 = _ from failed]
    exact ⟨rfl, (List.append_nil _).symm⟩
  · rw [performed, exchanged, parts, show assessed.1 = _ from got]
    exact ⟨rfl, rfl⟩

/-- The exchanges of an update are an opening that only looks, its closing, and
the removal of the scratch directory. -/
theorem update_parts (host : Host σ) (lab : Lab) (source : ManifestSource) (feed : String)
    (dryRun : Bool) (output : Option Path) (run : Run σ) :
    ∃ opening ending,
      (lab.update source feed dryRun output).exchanges host run = opening ++
        (closing host dryRun output (lab.assessment host source feed run) ++ ending) ∧
      ((lab.update source feed dryRun output).perform host run).1 =
        concluded host dryRun output (lab.assessment host source feed run) ∧
      (∀ exchange ∈ opening, exchange.request.publishes = false) ∧
      ∀ exchange ∈ ending, ∃ directory, exchange.request = .dropScratch directory := by
  rw [update_eq]
  rcases Attempt.withScratch_cases host
      (fun workdir => lab.assess source feed workdir >>= conclude dryRun output) run with
    ⟨reason, made, result, exchanged⟩ | ⟨workdir, made, result, exchanged⟩
  · have failed : lab.assessment host source feed run =
        (.error (.file reason), (Run.serve host .makeScratch run).2) := by
      simp only [Lab.assessment, made]
    rw [failed]
    refine ⟨[⟨.makeScratch, .error reason⟩], [], exchanged, result, ?_, by simp⟩
    intro exchange present
    rw [List.mem_singleton.mp present]
    rfl
  · have assessed : lab.assessment host source feed run =
        (lab.assess source feed workdir).perform host (Run.serve host .makeScratch run).2 := by
      simp only [Lab.assessment, made]
    obtain ⟨concludes, closes⟩ := assess_then_conclude host lab source feed dryRun output workdir
      (Run.serve host .makeScratch run).2
    have looks := Flow.allowed_of_obeys (lab.obeys_assess source feed workdir) host
      (Run.serve host .makeScratch run).2
    rw [assessed]
    refine ⟨⟨.makeScratch, .ok workdir⟩ ::
      (lab.assess source feed workdir).exchanges host (Run.serve host .makeScratch run).2,
      [⟨.dropScratch workdir, ()⟩], ?_, result.trans concludes, ?_, ?_⟩
    · rw [exchanged, closes, List.append_assoc]
      rfl
    · intro exchange present
      rcases List.mem_cons.mp present with rfl | later
      · rfl
      · exact looks exchange later
    · intro exchange present
      exact ⟨workdir, by rw [List.mem_singleton.mp present]⟩

/-- A closing is empty and the update has failed, or there are no anomalies and
the closing carries out the steps of the conclusion. -/
theorem closing_cases (host : Host σ) (dryRun : Bool) (output : Option Path)
    (assessed : Except Error Assessment × Run σ) :
    (closing host dryRun output assessed = [] ∧
      ∃ error, concluded host dryRun output assessed = .error error) ∨
    (∃ assessment, assessed.1 = .ok assessment ∧ assessment.report = {} ∧
      CarriedOut (assessment.steps dryRun output) (closing host dryRun output assessed) ∧
      ((concluded host dryRun output assessed = .ok (assessment.completed dryRun) ∧
          Completed (assessment.steps dryRun output) (closing host dryRun output assessed)) ∨
        ∃ error, concluded host dryRun output assessed = .error error)) := by
  rcases assessed with ⟨error | assessment, left⟩
  · exact .inl ⟨rfl, error, rfl⟩
  · by_cases clean : assessment.report = {}
    · refine .inr ⟨assessment, rfl, clean, ?_⟩
      rcases performs_conclude dryRun output clean host left with ⟨done, completed⟩ | ⟨error, failed, carried⟩
      · exact ⟨completed.carriedOut, .inl ⟨done, completed⟩⟩
      · exact ⟨carried, .inr ⟨error, failed⟩⟩
    · obtain ⟨refused, none⟩ := conclude_refuses host dryRun output clean left
      exact .inl ⟨none, _, refused⟩

/-- An exchange that puts something anywhere belongs to a step of the conclusion
of an update without anomalies. Before it the earlier steps were completed, and
after it come beginnings of the later ones. -/
theorem publishing_split {host : Host σ} {lab : Lab} {source : ManifestSource} {feed : String}
    {dryRun : Bool} {output : Option Path} {run : Run σ} {before after : List Exchange}
    {exchange : Exchange}
    (exchanged : (lab.update source feed dryRun output).exchanges host run =
      before ++ exchange :: after)
    (publishes : exchange.request.publishes = true) :
    ∃ assessment, (lab.assessment host source feed run).1 = .ok assessment ∧
      assessment.report = {} ∧ ∃ earlier following,
        assessment.steps dryRun output = earlier ++ exchange.request :: following ∧
        (∃ opening done, before = opening ++ done ∧
          (∀ other ∈ opening, other.request.publishes = false) ∧ Completed earlier done) ∧
        (∃ rest ending, after = rest ++ ending ∧ CarriedOut following rest ∧
          ∀ other ∈ ending, ∃ directory, other.request = .dropScratch directory) := by
  obtain ⟨opening, ending, parts, _, looks, drops⟩ :=
    update_parts host lab source feed dryRun output run
  have notOpening : exchange ∉ opening := by
    intro present
    rw [looks exchange present] at publishes
    cases publishes
  have notEnding : exchange ∉ ending := by
    intro present
    obtain ⟨directory, dropped⟩ := drops exchange present
    rw [dropped] at publishes
    cases publishes
  obtain ⟨done, rest, closed, rfl, rfl⟩ :=
    divides_middle (parts.symm.trans exchanged) notOpening notEnding
  rcases closing_cases host dryRun output (lab.assessment host source feed run) with
    ⟨none, _⟩ | ⟨assessment, assessed, clean, carried, _⟩
  · rw [none] at closed
    simp at closed
  · rw [closed] at carried
    obtain ⟨earlier, following, listed, completed, left⟩ := carried.split
    exact ⟨assessment, assessed, clean, earlier, following, listed,
      ⟨opening, done, rfl, looks, completed⟩, rest, ending, rfl, left, drops⟩

section Fields

variable {host : Host σ} {lab : Lab} {source : ManifestSource} {feed : String} {dryRun : Bool}
  {output : Option Path} {run : Run σ}

/-- An update that is not known to be without anomalies puts nothing anywhere. -/
theorem publishes_nothing
    (refuses : ∀ assessment, (lab.assessment host source feed run).1 = .ok assessment →
      assessment.report ≠ {}) :
    ∀ exchange ∈ (lab.update source feed dryRun output).exchanges host run,
      exchange.request.publishes = false := by
  intro exchange present
  cases publishes : exchange.request.publishes with
  | false => rfl
  | true =>
    obtain ⟨before, after, exchanged⟩ := List.append_of_mem present
    obtain ⟨assessment, assessed, clean, _⟩ := publishing_split exchanged publishes
    exact absurd clean (refuses assessment assessed)

theorem update_fails {error : Error}
    (failed : (lab.assessment host source feed run).1 = .error error) :
    ((lab.update source feed dryRun output).perform host run).1 = .error error := by
  obtain ⟨_, _, _, result, _⟩ := update_parts host lab source feed dryRun output run
  rw [result, ← Prod.eta (lab.assessment host source feed run), failed]
  rfl

theorem update_refuses {assessment : Assessment}
    (assessed : (lab.assessment host source feed run).1 = .ok assessment)
    (anomalous : assessment.report ≠ {}) :
    ((lab.update source feed dryRun output).perform host run).1 =
      .error (.anomalies assessment.report.count assessment.report) := by
  obtain ⟨_, _, _, result, _⟩ := update_parts host lab source feed dryRun output run
  rw [result, ← Prod.eta (lab.assessment host source feed run), assessed]
  exact (conclude_refuses host dryRun output anomalous _).1

/-- The request of a publishing exchange is a step of an update without
anomalies. -/
theorem publishing_step {exchange : Exchange}
    (present : exchange ∈ (lab.update source feed dryRun output).exchanges host run)
    (publishes : exchange.request.publishes = true) :
    ∃ assessment, (lab.assessment host source feed run).1 = .ok assessment ∧
      assessment.report = {} ∧ exchange.request ∈ assessment.steps dryRun output := by
  obtain ⟨before, after, exchanged⟩ := List.append_of_mem present
  obtain ⟨assessment, assessed, clean, earlier, following, listed, _⟩ :=
    publishing_split exchanged publishes
  refine ⟨assessment, assessed, clean, ?_⟩
  rw [listed]
  exact List.mem_append_right _ List.mem_cons_self

theorem update_commits {before after : List Exchange} {exchange : Exchange} {checkout : Path}
    {path message : String}
    (exchanged : (lab.update source feed dryRun output).exchanges host run =
      before ++ exchange :: after)
    (commits : exchange.request = .commit checkout path message) :
    dryRun = false ∧ ∃ assessment, (lab.assessment host source feed run).1 = .ok assessment ∧
      assessment.report = {} ∧ ∃ repository,
        assessment.destination = .review repository checkout ∧ path = repository.manifestPath ∧
        ∃ earlier written, before = earlier ++ [written] ∧
          written.request =
            .writeFile (checkout.join repository.manifestPath) assessment.encoded ∧
          written.succeeded = true := by
  obtain ⟨assessment, assessed, clean, earlier, following, listed, ⟨opening, done, rfl, _, completed⟩,
    _⟩ := publishing_split exchanged (by rw [commits]; rfl)
  rw [commits] at listed
  obtain ⟨wet, repository, goes, place, _, start, rfl⟩ := Assessment.steps_commit listed
  obtain ⟨first, second, rfl, _, last⟩ := completed.divide
  obtain ⟨written, rfl, requested, succeeded⟩ := last.single
  exact ⟨wet, assessment, assessed, clean, repository, goes, place, opening ++ first, written,
    (List.append_assoc _ _ _).symm, requested, succeeded⟩

theorem update_pushes {before after : List Exchange} {exchange : Exchange} {checkout : Path}
    {target : String}
    (exchanged : (lab.update source feed dryRun output).exchanges host run =
      before ++ exchange :: after)
    (pushes : exchange.request = .push checkout target) :
    dryRun = false ∧ ∃ assessment, (lab.assessment host source feed run).1 = .ok assessment ∧
      assessment.report = {} ∧ ∃ repository,
        assessment.destination = .review repository checkout ∧ target = repository.pushTarget ∧
        (∃ earlier committed, before = earlier ++ [committed, ⟨.stopped, false⟩] ∧
          committed.request = .commit checkout repository.manifestPath updateMessage ∧
          committed.succeeded = true) ∧
        (∀ other ∈ before, ∀ place ref, other.request ≠ .push place ref) ∧
        ∀ other ∈ after, other.request.usesVersionControl = false := by
  obtain ⟨assessment, assessed, clean, earlier, following, listed,
    ⟨opening, done, rfl, looks, completed⟩, rest, ending, rfl, remaining, drops⟩ :=
    publishing_split exchanged (by rw [pushes]; rfl)
  rw [pushes] at listed
  obtain ⟨wet, rfl, unpushed, repository, goes, place, start, rfl⟩ := Assessment.steps_push listed
  refine ⟨wet, assessment, assessed, clean, repository, goes, place, ?_, ?_, ?_⟩
  · obtain ⟨first, second, rfl, _, last⟩ := completed.divide
    obtain ⟨commits, asks, rfl, committing, asking⟩ :=
      Completed.divide (show Completed ([_] ++ [.stopped]) second from last)
    obtain ⟨committed, rfl, requested, succeeded⟩ := committing.single
    obtain ⟨asked, rfl, stopping, quiet⟩ := asking.single
    rw [Exchange.eq_of_stopped stopping quiet]
    exact ⟨opening ++ first, committed, (List.append_assoc _ _ _).symm, requested, succeeded⟩
  · intro other present place' ref same
    rcases List.mem_append.mp present with opened | closed
    · have quiet := looks other opened
      rw [same] at quiet
      cases quiet
    · refine unpushed other.request ?_ place' ref same
      rw [← completed.1]
      exact List.mem_map_of_mem closed
  · intro other present
    rcases List.mem_append.mp present with closed | ended
    · cases remaining.mem_steps closed
    · obtain ⟨directory, dropped⟩ := drops other ended
      rw [dropped]
      rfl

/-- An update that has seen that it was told to stop only removes its scratch
directory. -/
theorem update_told {before after : List Exchange}
    (exchanged : (lab.update source feed dryRun output).exchanges host run =
      before ++ ⟨.stopped, true⟩ :: after) :
    ((lab.update source feed dryRun output).perform host run).1 = .error .cancelled ∧
      ∀ other ∈ after, ∃ directory, other.request = .dropScratch directory := by
  rw [update_eq] at exchanged ⊢
  rcases Attempt.withScratch_cases host
      (fun workdir => lab.assess source feed workdir >>= conclude dryRun output) run with
    ⟨reason, _, _, all⟩ | ⟨workdir, _, result, all⟩
  · have present : (⟨.stopped, true⟩ : Exchange) ∈ [⟨.makeScratch, .error reason⟩] := by
      rw [← all, exchanged]
      exact List.mem_append_right _ List.mem_cons_self
    cases List.mem_singleton.mp present
  · have obeys : Attempt.Obeys (fun _ => True)
        (lab.assess source feed workdir >>= conclude dryRun output) :=
      Attempt.obeys_bind (Flow.obeys_mono (fun _ _ => trivial)
        (lab.obeys_assess source feed workdir)) (obeys_conclude dryRun output)
    have notOpening : (⟨.stopped, true⟩ : Exchange) ∉ [⟨.makeScratch, .ok workdir⟩] := by
      intro present
      cases List.mem_singleton.mp present
    have notEnding : (⟨.stopped, true⟩ : Exchange) ∉ [⟨.dropScratch workdir, ()⟩] := by
      intro present
      cases List.mem_singleton.mp present
    have parts : [⟨.makeScratch, .ok workdir⟩] ++
        ((lab.assess source feed workdir >>= conclude dryRun output).exchanges host
          (Run.serve host .makeScratch run).2 ++ [⟨.dropScratch workdir, ()⟩]) =
        before ++ ⟨.stopped, true⟩ :: after := all.symm.trans exchanged
    obtain ⟨first, last, middle, rfl, rfl⟩ := divides_middle parts notOpening notEnding
    obtain ⟨rfl, cancelled⟩ := Flow.ends_of_obeys obeys host _ middle rfl
    refine ⟨result.trans cancelled, ?_⟩
    intro other present
    exact ⟨workdir, by rw [List.mem_singleton.mp present]⟩

/-- An update that was told to stop before it began makes a scratch directory at
most, and removes it. -/
theorem update_told_before (told : run.stopped = true) :
    (∃ reason,
      ((lab.update source feed dryRun output).perform host run).1 = .error (.file reason) ∧
      (lab.update source feed dryRun output).exchanges host run =
        [⟨.makeScratch, .error reason⟩]) ∨
    (∃ workdir,
      ((lab.update source feed dryRun output).perform host run).1 = .error .cancelled ∧
      (lab.update source feed dryRun output).exchanges host run =
        [⟨.makeScratch, .ok workdir⟩, ⟨.stopped, true⟩, ⟨.dropScratch workdir, ()⟩]) := by
  rw [update_eq]
  rcases Attempt.withScratch_cases host
      (fun workdir => lab.assess source feed workdir >>= conclude dryRun output) run with
    ⟨reason, _, result, all⟩ | ⟨workdir, _, result, all⟩
  · exact .inl ⟨reason, result, all⟩
  · have still := Flow.serve_stopped host .makeScratch run told
    obtain ⟨assessed, asked⟩ := assess_told lab source feed workdir still
    obtain ⟨failed, exchanged⟩ := Attempt.bind_error (conclude dryRun output) assessed
    refine .inr ⟨workdir, result.trans failed, ?_⟩
    rw [all, exchanged, asked]
    rfl

/-- An update that was told to stop by the end of its assessment writes the
output at most, unless it is a dry run. -/
theorem update_told_assessed {assessment : Assessment} {left : Run σ}
    (assessed : lab.assessment host source feed run = (.ok assessment, left))
    (clean : assessment.report = {}) (told : left.stopped = true) :
    (((lab.update source feed false output).perform host run).1 = .error .cancelled ∨
      ∃ reason, ((lab.update source feed false output).perform host run).1 = .error (.file reason)) ∧
    ∀ exchange ∈ (lab.update source feed false output).exchanges host run,
      exchange.request.publishes = true →
        exchange.request ∈ outputSteps output assessment.encoded := by
  obtain ⟨opening, ending, parts, result, looks, drops⟩ :=
    update_parts host lab source feed false output run
  rw [assessed] at parts result
  obtain ⟨failure, carried⟩ := conclude_told host output clean told
  refine ⟨by rw [result]; exact failure, ?_⟩
  intro exchange present publishes
  rw [parts] at present
  rcases List.mem_append.mp present with opened | present
  · rw [looks exchange opened] at publishes
    cases publishes
  · rcases List.mem_append.mp present with closed | ended
    · exact carried exchange closed publishes
    · obtain ⟨directory, dropped⟩ := drops exchange ended
      rw [dropped] at publishes
      cases publishes

/-- An update that has a result was assessed without anomalies, and has carried
out all its steps. -/
theorem update_completes {outcome : UpdateOutcome}
    (succeeded : ((lab.update source feed dryRun output).perform host run).1 = .ok outcome) :
    ∃ assessment, (lab.assessment host source feed run).1 = .ok assessment ∧
      assessment.report = {} ∧ outcome = assessment.completed dryRun ∧
      ∃ opening closing ending,
        (lab.update source feed dryRun output).exchanges host run =
          opening ++ (closing ++ ending) ∧
        Completed (assessment.steps dryRun output) closing ∧
        (∀ exchange ∈ opening, exchange.request.publishes = false) ∧
        ∀ exchange ∈ ending, ∃ directory, exchange.request = .dropScratch directory := by
  obtain ⟨opening, ending, parts, result, looks, drops⟩ :=
    update_parts host lab source feed dryRun output run
  rw [result] at succeeded
  rcases closing_cases host dryRun output (lab.assessment host source feed run) with
    ⟨_, error, failed⟩ | ⟨assessment, assessed, clean, _, ⟨concluded, completed⟩ | ⟨error, failed⟩⟩
  · cases failed.symm.trans succeeded
  · cases concluded.symm.trans succeeded
    exact ⟨assessment, assessed, clean, rfl, opening, _, ending, parts, completed, looks, drops⟩
  · cases failed.symm.trans succeeded

end Fields

/-- What the gate promises of a run of an update: the assessment is that of what
the surroundings gave, and nothing is put anywhere that it does not bear out. -/
structure Gated (host : Host σ) (lab : Lab) (source : ManifestSource) (feed : String)
    (dryRun : Bool) (output : Option Path) (run : Run σ) : Prop where
  /-- An assessment reports on the reconciliation of what was read. -/
  grounded : ∀ assessment, (lab.assessment host source feed run).1 = .ok assessment →
    ∃ workdir, assessment.Grounded host lab source feed workdir
  /-- An update fails with its assessment, and then puts nothing anywhere. -/
  failed : ∀ error, (lab.assessment host source feed run).1 = .error error →
    ((lab.update source feed dryRun output).perform host run).1 = .error error ∧
    ∀ exchange ∈ (lab.update source feed dryRun output).exchanges host run,
      exchange.request.publishes = false
  /-- Anomalies are refused with their report and their number, and nothing is put
  anywhere. -/
  refused : ∀ assessment, (lab.assessment host source feed run).1 = .ok assessment →
    assessment.report ≠ {} →
    ((lab.update source feed dryRun output).perform host run).1 =
        .error (.anomalies assessment.report.count assessment.report) ∧
    ∀ exchange ∈ (lab.update source feed dryRun output).exchanges host run,
      exchange.request.publishes = false
  /-- A dry run puts nothing anywhere but the output. -/
  dry : dryRun = true →
    ∀ exchange ∈ (lab.update source feed dryRun output).exchanges host run,
      exchange.request.publishes = true →
      ∃ path contents, output = some path ∧ exchange.request = .writeFile path contents
  /-- Whatever is written has the canonical bytes of a new manifest without
  anomalies, and goes to the output or to where the new manifest goes. -/
  written : ∀ exchange ∈ (lab.update source feed dryRun output).exchanges host run,
    ∀ path contents, exchange.request = .writeFile path contents →
      ∃ assessment, (lab.assessment host source feed run).1 = .ok assessment ∧
        assessment.report = {} ∧ contents = assessment.outcome.manifest.encode ∧
        (output = some path ∨ (dryRun = false ∧ path = assessment.destination.target))
  /-- A commit comes right after the canonical bytes of a new manifest without
  anomalies were written into the file that is committed. -/
  committed : ∀ before after exchange checkout path message,
    (lab.update source feed dryRun output).exchanges host run = before ++ exchange :: after →
    exchange.request = .commit checkout path message →
    dryRun = false ∧ ∃ assessment, (lab.assessment host source feed run).1 = .ok assessment ∧
      assessment.report = {} ∧ ∃ repository,
        assessment.destination = .review repository checkout ∧ path = repository.manifestPath ∧
        ∃ earlier written, before = earlier ++ [written] ∧
          written.request = .writeFile (checkout.join repository.manifestPath)
            assessment.outcome.manifest.encode ∧
          written.succeeded = true
  /-- A push comes after a commit that succeeded, with only a look at whether to
  stop in between. It is the only push, and the last use of version control. -/
  pushed : ∀ before after exchange checkout target,
    (lab.update source feed dryRun output).exchanges host run = before ++ exchange :: after →
    exchange.request = .push checkout target →
    dryRun = false ∧ ∃ assessment, (lab.assessment host source feed run).1 = .ok assessment ∧
      assessment.report = {} ∧ ∃ repository,
        assessment.destination = .review repository checkout ∧ target = repository.pushTarget ∧
        (∃ earlier committed, before = earlier ++ [committed, ⟨.stopped, false⟩] ∧
          committed.request = .commit checkout repository.manifestPath updateMessage ∧
          committed.succeeded = true) ∧
        (∀ other ∈ before, ∀ place ref, other.request ≠ .push place ref) ∧
        ∀ other ∈ after, other.request.usesVersionControl = false
  /-- Once it has seen that it was told to stop, an update fails so and only
  removes its scratch directory. -/
  told : ∀ before after,
    (lab.update source feed dryRun output).exchanges host run =
      before ++ ⟨.stopped, true⟩ :: after →
    ((lab.update source feed dryRun output).perform host run).1 = .error .cancelled ∧
    ∀ other ∈ after, ∃ directory, other.request = .dropScratch directory
  /-- An update that was told to stop before it began makes a scratch directory at
  most, and removes it. -/
  toldBefore : run.stopped = true →
    (∃ reason,
      ((lab.update source feed dryRun output).perform host run).1 = .error (.file reason) ∧
      (lab.update source feed dryRun output).exchanges host run =
        [⟨.makeScratch, .error reason⟩]) ∨
    (∃ workdir,
      ((lab.update source feed dryRun output).perform host run).1 = .error .cancelled ∧
      (lab.update source feed dryRun output).exchanges host run =
        [⟨.makeScratch, .ok workdir⟩, ⟨.stopped, true⟩, ⟨.dropScratch workdir, ()⟩])
  /-- An update that was told to stop by the end of its assessment fails, and puts
  nothing anywhere but the output, unless it is a dry run. -/
  toldAssessed : ∀ assessment left,
    lab.assessment host source feed run = (.ok assessment, left) → assessment.report = {} →
    left.stopped = true → dryRun = false →
    (((lab.update source feed dryRun output).perform host run).1 = .error .cancelled ∨
      ∃ reason,
        ((lab.update source feed dryRun output).perform host run).1 = .error (.file reason)) ∧
    ∀ exchange ∈ (lab.update source feed dryRun output).exchanges host run,
      exchange.request.publishes = true →
      ∃ path contents, output = some path ∧ exchange.request = .writeFile path contents
  /-- An update with a result was assessed without anomalies, and has carried out
  all the steps of its conclusion. -/
  completed : ∀ outcome,
    ((lab.update source feed dryRun output).perform host run).1 = .ok outcome →
    ∃ assessment, (lab.assessment host source feed run).1 = .ok assessment ∧
      assessment.report = {} ∧ outcome = assessment.completed dryRun ∧
      ∃ opening closing ending,
        (lab.update source feed dryRun output).exchanges host run =
          opening ++ (closing ++ ending) ∧
        Completed (assessment.steps dryRun output) closing ∧
        (∀ exchange ∈ opening, exchange.request.publishes = false) ∧
        ∀ exchange ∈ ending, ∃ directory, exchange.request = .dropScratch directory

/-- Every run of an update is gated, whatever its surroundings answer and whenever
they tell it to stop. -/
theorem update_gated (host : Host σ) (lab : Lab) (source : ManifestSource) (feed : String)
    (dryRun : Bool) (output : Option Path) (run : Run σ) :
    Gated host lab source feed dryRun output run where
  grounded _ assessed := assessment_grounded assessed
  failed error fails := by
    refine ⟨update_fails fails, publishes_nothing ?_⟩
    intro assessment assessed
    cases fails.symm.trans assessed
  refused assessment assessed anomalous := by
    refine ⟨update_refuses assessed anomalous, publishes_nothing ?_⟩
    intro other same
    cases assessed.symm.trans same
    exact anomalous
  dry := by
    rintro rfl exchange present publishes
    obtain ⟨assessment, _, _, step⟩ := publishing_step present publishes
    obtain ⟨path, asked, requested⟩ := Assessment.mem_steps_dry step
    exact ⟨path, _, asked, requested⟩
  written := by
    intro exchange present path contents writes
    obtain ⟨assessment, assessed, clean, step⟩ := publishing_step present (by rw [writes]; rfl)
    rw [writes] at step
    exact ⟨assessment, assessed, clean, Assessment.mem_steps_write step⟩
  committed _ _ _ _ _ _ exchanged commits := update_commits exchanged commits
  pushed _ _ _ _ _ exchanged pushes := update_pushes exchanged pushes
  told _ _ exchanged := update_told exchanged
  toldBefore told := update_told_before told
  toldAssessed := by
    rintro assessment left assessed clean told rfl
    obtain ⟨failure, outputs⟩ := update_told_assessed assessed clean told
    refine ⟨failure, ?_⟩
    intro exchange present publishes
    obtain ⟨path, asked, requested⟩ := mem_outputSteps (outputs exchange present publishes)
    exact ⟨path, _, asked, requested⟩
  completed _ succeeded := update_completes succeeded

end Lab

end StableFleet
