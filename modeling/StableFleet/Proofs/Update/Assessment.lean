import StableFleet.Flows.Update
import StableFleet.Proofs.Archive.Session
import StableFleet.Proofs.Flow.Lookups
import StableFleet.Proofs.Flow.Obedience

/-!
# An update before it writes

An update falls into two parts. The assessment reads the feed and the manifest,
reconciles them and has the outcome checked; the conclusion refuses what has
anomalies, and otherwise writes. The two parts in turn, with a scratch directory
around them, are the update.

The assessment only looks: it makes no request that puts a manifest anywhere.
Told to stop, it stops.
-/

namespace StableFleet

/-- Whether a request puts something where others find it: into a file, a commit
or a repository. Downloads and checkouts go into scratch directories. -/
def Request.publishes : Request → Bool
  | .writeFile .. | .makeDirectories .. | .commit .. | .push .. => true
  | _ => false

/-- Whether a request is made to read the feed or a manifest, or to see whether to stop. -/
def Request.consults : Request → Bool
  | .stopped | .readAddress .. | .readObject .. | .readFile .. => true
  | .clone .. | .fetch .. | .showFile .. => true
  | _ => false

/-- To consult something is not to publish anything. -/
theorem Request.publishes_of_consults (request : Request) (consults : request.consults = true) :
    request.publishes = false := by
  cases request <;> first | rfl | cases consults

section Lookups

variable {allowed : Request → Prop} (stopping : allowed .stopped)
  (downloading : ∀ backend remote target, allowed (.download backend remote target))

include stopping downloading

/-- A reconciliation only looks records up. -/
theorem obeys_reconcile (old : Manifest) (releases : List BoardRelease) :
    Reading.Obeys allowed (reconcile old releases) :=
  Reading.composes_obeys.reconcile (fun buildTarget version =>
    Reading.obeys_unlessStopped
      (Reading.obeys_firmwareVersions stopping downloading buildTarget version)) old releases

/-- Checking a manifest against the archive only looks records up. -/
theorem Deep.obeys_validate (manifest : Manifest) :
    Reading.Obeys allowed (Deep.validate manifest) :=
  Reading.composes_obeys.validate
    (fun buildTarget version => Reading.obeys_unlessStopped
      (Reading.obeys_firmwareVersions stopping downloading buildTarget version))
    (fun buildTarget model version => Reading.obeys_unlessStopped
      (Reading.obeys_firmwareVersion stopping downloading buildTarget model version)) manifest

end Lookups

/-- What an update knows before it writes. -/
structure Assessment where
  old : Manifest
  destination : Lab.Destination
  outcome : Reconciliation
  /-- The anomalies of the new manifest that are not let pass. -/
  report : Report

/-- The canonical bytes of the new manifest. -/
def Assessment.encoded (assessment : Assessment) : Bytes := assessment.outcome.manifest.encode

/-- Letting a reader read keeps to what the reading keeps to. -/
theorem Attempt.obeys_reading {α : Type} {allowed : Request → Prop} {reading : Reading α}
    (reader : ArchiveReader) (obeys : reading.Obeys allowed) :
    Attempt.Obeys allowed (Attempt.reading reader reading) := by
  refine Flow.obeys_bind (obeys reader) ?_ ?_
  · rintro ⟨_, left⟩ rfl
    exact ⟨.error .cancelled, rfl, rfl⟩
  · intro result
    exact trivial

namespace Lab

/-- Reads the feed and the manifest, reconciles them and has the outcome
checked. -/
def assess (lab : Lab) (source : ManifestSource) (feed : String) (workdir : Path) :
    Attempt Assessment := do
  let releases ← Attempt.ofExcept (Feed.parse (← Feed.fetch feed))
  let (bytes, destination) ← lab.readCurrent source workdir
  let old ← Attempt.ofExcept (Manifest.decode bytes)
  let reader ← Attempt.ofExcept (lab.reader workdir)
  let (outcome, reader) ← Attempt.reading reader (reconcile old releases)
  let (report, _) ← Attempt.reading reader (Deep.validate outcome.manifest)
  return ⟨old, destination, outcome, report.without lab.config.allowLists⟩

/-- Refuses what has anomalies, and otherwise writes. -/
def conclude (dryRun : Bool) (output : Option Path) (assessment : Assessment) :
    Attempt UpdateOutcome := do
  refuseAnomalies assessment.report
  writeOutput output assessment.encoded
  if !dryRun then
    deliver assessment.destination assessment.encoded
  return ⟨assessment.outcome, assessment.encoded,
    osChanges assessment.old assessment.outcome.manifest, !dryRun⟩

/-- An update is its assessment and then its conclusion, with a scratch
directory. -/
theorem update_eq (lab : Lab) (source : ManifestSource) (feed : String) (dryRun : Bool)
    (output : Option Path) :
    lab.update source feed dryRun output =
      Attempt.withScratch fun workdir => lab.assess source feed workdir >>= conclude dryRun output := by
  simp only [update, assess, conclude, reconcileAndCheck, bind_assoc, pure_bind, Assessment.encoded]

/-- Reading the feed only consults. -/
theorem obeys_fetchFeed (location : String) :
    Attempt.Obeys (·.consults = true) (Feed.fetch location) := by
  refine Attempt.obeys_bind (Attempt.obeys_checkpoint rfl) fun _ => ?_
  split
  · exact Attempt.obeys_request (by rfl) (fun _ => rfl) fun _ => ⟨_, rfl⟩
  · split
    · exact Attempt.obeys_request (by rfl) (fun _ => rfl) fun _ => ⟨_, rfl⟩
    · refine Attempt.obeys_bind (Attempt.obeys_ofExcept _) fun path => ?_
      exact Attempt.obeys_readFile path rfl

/-- Making a checkout and reading the manifest from it only consults. -/
theorem obeys_readRepository (lab : Lab) (revision : Option String) (workdir : Path) :
    Attempt.Obeys (·.consults = true) (lab.readRepository revision workdir) := by
  refine Attempt.obeys_bind (Attempt.obeys_ofExcept _) fun repository => ?_
  have checksOut : Attempt.Obeys (·.consults = true) (repository.checkout workdir) := by
    refine Attempt.obeys_bind (Attempt.obeys_checkpoint rfl) fun _ => ?_
    have clones : Attempt.Obeys (·.consults = true) (Attempt.ask (Flow.ask
        (.clone repository.address repository.branch (workdir.join Repository.checkoutName)))) :=
      Attempt.obeys_request (by rfl) (fun _ => rfl) fun _ => ⟨_, rfl⟩
    exact Attempt.obeys_bind clones fun _ => Attempt.obeys_pure _
  refine Attempt.obeys_bind checksOut fun checkout => ?_
  have obtains : Attempt.Obeys (·.consults = true) (Repository.obtain checkout revision) := by
    cases revision with
    | none => exact Attempt.obeys_pure _
    | some revision =>
      have fetches : Attempt.Obeys (·.consults = true)
          (Attempt.ask (Flow.ask (.fetch checkout revision))) :=
        Attempt.obeys_request (by rfl) (fun _ => rfl) fun _ => ⟨_, rfl⟩
      refine Attempt.obeys_bind fetches fun _ => ?_
      exact Attempt.obeys_bind (Attempt.obeys_checkpoint rfl) fun _ => Attempt.obeys_pure _
  have reads : Attempt.Obeys (·.consults = true)
      (repository.readManifest checkout revision) := by
    refine Attempt.obeys_bind (Attempt.obeys_checkpoint rfl) fun _ => ?_
    exact Attempt.obeys_bind obtains fun name =>
      Attempt.obeys_request (by rfl) (fun _ => rfl) fun _ => ⟨_, rfl⟩
  exact Attempt.obeys_bind reads fun bytes => Attempt.obeys_pure _

/-- Reading the current manifest only consults. -/
theorem obeys_readCurrent (lab : Lab) (source : ManifestSource) (workdir : Path) :
    Attempt.Obeys (·.consults = true) (lab.readCurrent source workdir) := by
  cases source with
  | file path =>
    exact Attempt.obeys_bind (Attempt.obeys_readFile path rfl) fun _ => Attempt.obeys_pure _
  | repository revision =>
    exact Attempt.obeys_bind (lab.obeys_readRepository revision workdir) fun _ =>
      Attempt.obeys_pure _

/-- An assessment only looks. -/
theorem obeys_assess (lab : Lab) (source : ManifestSource) (feed : String) (workdir : Path) :
    Attempt.Obeys (·.publishes = false) (lab.assess source feed workdir) := by
  have reconciles (old : Manifest) (releases : List BoardRelease) :
      Reading.Obeys (·.publishes = false) (reconcile old releases) :=
    obeys_reconcile (by rfl) (fun _ _ _ => by rfl) old releases
  have validates (manifest : Manifest) :
      Reading.Obeys (·.publishes = false) (Deep.validate manifest) :=
    Deep.obeys_validate (by rfl) (fun _ _ _ => by rfl) manifest
  have fetches : Attempt.Obeys (·.publishes = false) (Feed.fetch feed) :=
    Flow.obeys_mono Request.publishes_of_consults (obeys_fetchFeed feed)
  have reads : Attempt.Obeys (·.publishes = false) (lab.readCurrent source workdir) :=
    Flow.obeys_mono Request.publishes_of_consults (lab.obeys_readCurrent source workdir)
  refine Attempt.obeys_bind fetches fun bytes => ?_
  refine Attempt.obeys_bind (Attempt.obeys_ofExcept _) fun releases => ?_
  refine Attempt.obeys_bind reads fun current => ?_
  refine Attempt.obeys_bind (Attempt.obeys_ofExcept _) fun old => ?_
  refine Attempt.obeys_bind (Attempt.obeys_ofExcept _) fun reader => ?_
  refine Attempt.obeys_bind (Attempt.obeys_reading reader (reconciles old releases)) ?_
  rintro ⟨outcome, reader⟩
  refine Attempt.obeys_bind (Attempt.obeys_reading reader (validates outcome.manifest)) ?_
  rintro ⟨report, _⟩
  exact Attempt.obeys_pure _

/-- A destination is that of the source: the file that was read, or the checkout
of the repository. -/
def Destination.Fits (lab : Lab) (source : ManifestSource) (workdir : Path)
    (destination : Destination) : Prop :=
  match source with
  | .file path => destination = .file path
  | .repository _ => ∃ repository, lab.repository = .ok repository ∧
      destination = .review repository (workdir.join Repository.checkoutName)

/-- A manifest that was read goes back where it came from. -/
theorem readCurrent_fits {σ : Type} {host : Host σ} {lab : Lab} {source : ManifestSource}
    {workdir : Path} {run : Run σ} {bytes : Bytes} {destination : Destination}
    (read : ((lab.readCurrent source workdir).perform host run).1 = .ok (bytes, destination)) :
    destination.Fits lab source workdir := by
  cases source with
  | file path =>
    obtain ⟨contents, _, done⟩ := Attempt.bind_ok read
    cases done
    rfl
  | repository revision =>
    obtain ⟨⟨contents, repository, checkout⟩, found, done⟩ := Attempt.bind_ok read
    obtain ⟨repository, configured, found⟩ := Attempt.bind_ok found
    obtain ⟨checkout, made, found⟩ := Attempt.bind_ok found
    obtain ⟨shown, _, found⟩ := Attempt.bind_ok found
    obtain ⟨_, _, made⟩ := Attempt.bind_ok made
    obtain ⟨_, _, made⟩ := Attempt.bind_ok made
    cases made
    cases found
    cases done
    exact ⟨repository, configured, rfl⟩

end Lab

/-- An assessment is grounded when it tells what was found: the releases of the
feed that was fetched, the manifest that was read with where it came from, their
reconciliation, and the anomalies that a check of the outcome found and that are
not let pass. -/
def Assessment.Grounded {σ : Type} (host : Host σ) (lab : Lab) (source : ManifestSource)
    (feed : String) (workdir : Path) (assessment : Assessment) : Prop :=
  ∃ fetching reading : Run σ, ∃ feedBytes releases bytes reader report,
    ∃ before middle after : Session σ,
      ((Feed.fetch feed).perform host fetching).1 = .ok feedBytes ∧
      Feed.parse feedBytes = .ok releases ∧
      ((lab.readCurrent source workdir).perform host reading).1 =
        .ok (bytes, assessment.destination) ∧
      assessment.destination.Fits lab source workdir ∧
      Manifest.decode bytes = .ok assessment.old ∧
      lab.reader workdir = .ok reader ∧ before.reader = reader ∧
      (reconcile assessment.old releases).perform host before = (.ok assessment.outcome, middle) ∧
      (Deep.validate assessment.outcome.manifest).perform host middle = (.ok report, after) ∧
      assessment.report = report.without lab.config.allowLists

namespace Lab

/-- An assessment that succeeds is grounded. -/
theorem grounded_of_assess {σ : Type} {host : Host σ} {lab : Lab} {source : ManifestSource}
    {feed : String} {workdir : Path} {run : Run σ} {assessment : Assessment}
    (assessed : ((lab.assess source feed workdir).perform host run).1 = .ok assessment) :
    assessment.Grounded host lab source feed workdir := by
  obtain ⟨feedBytes, fetched, assessed⟩ := Attempt.bind_ok assessed
  obtain ⟨releases, parsed, assessed⟩ := Attempt.bind_ok assessed
  obtain ⟨⟨bytes, destination⟩, current, assessed⟩ := Attempt.bind_ok assessed
  obtain ⟨old, decoded, assessed⟩ := Attempt.bind_ok assessed
  obtain ⟨reader, made, assessed⟩ := Attempt.bind_ok assessed
  obtain ⟨⟨outcome, left⟩, reconciled, assessed⟩ := Attempt.bind_ok assessed
  obtain ⟨⟨report, _⟩, validated, assessed⟩ := Attempt.bind_ok assessed
  have reconciles := Attempt.reading_ok reconciled
  have validates := Attempt.reading_ok validated
  have fits := readCurrent_fits current
  cases assessed
  exact ⟨_, _, feedBytes, releases, bytes, reader, report, ⟨reader, _⟩, _, _, fetched, parsed,
    current, fits, decoded, made, rfl, reconciles, validates, rfl⟩

/-- An assessment of an operation that was told to stop looks at that and at
nothing else. -/
theorem assess_told {σ : Type} {host : Host σ} (lab : Lab) (source : ManifestSource)
    (feed : String) (workdir : Path) {run : Run σ} (told : run.stopped = true) :
    ((lab.assess source feed workdir).perform host run).1 = .error .cancelled ∧
      (lab.assess source feed workdir).exchanges host run = [⟨.stopped, true⟩] := by
  obtain ⟨looked, asked⟩ := Attempt.checkpoint_told host told
  have fetched : ((Feed.fetch feed).perform host run).1 = .error .cancelled ∧
      (Feed.fetch feed).exchanges host run = Attempt.checkpoint.exchanges host run :=
    Attempt.bind_error _ looked
  have assessed : ((lab.assess source feed workdir).perform host run).1 = .error .cancelled ∧
      (lab.assess source feed workdir).exchanges host run =
        (Feed.fetch feed).exchanges host run :=
    Attempt.bind_error _ fetched.1
  exact ⟨assessed.1, by rw [assessed.2, fetched.2, asked]⟩

end Lab

end StableFleet
