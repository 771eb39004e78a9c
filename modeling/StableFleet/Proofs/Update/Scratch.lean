import StableFleet.Proofs.Archive.Targets
import StableFleet.Proofs.Path.Confinement
import StableFleet.Proofs.Update.Conclusion
import StableFleet.Proofs.Update.Documents
import StableFleet.Proofs.Validation.Rereading
import StableFleet.Proofs.Version.Codec

/-!
# What a flow downloads into its scratch directory

An update and a check of a manifest download the records of builds, each to the file that the
build target and the version name below the scratch directory of the flow. The builds are
those that the documents name which the flow has read. Nothing keeps a build target from
being an absolute path or from going up, nor a version of the manifest that is updated; the
versions of the feed and of a manifest that is checked are plain names.

So a download is below the scratch directory exactly when the names of its build stay below
it, but for a build that names the directory itself.
-/

namespace StableFleet

/-- The text of a version of the operating system is a plain name. -/
theorem OsVersion.plain {text : String} {version : OsVersion}
    (spelled : OsVersion.parse? text = some version) : Path.Plain text := by
  obtain rfl := OsVersion.parse?_eq_some_iff.mp spelled
  have first : version.text.toList.head? = some 'R' := by
    rw [OsVersion.toList_text]
    rfl
  refine ⟨Version.slash_not_mem_os version, ?_, ?_, ?_⟩ <;>
  · intro same
    rw [same] at first
    cases first

/-- The versions of a feed are well formed. -/
theorem Feed.isSome_version {bytes : Bytes} {releases : List BoardRelease}
    (parsed : parse bytes = .ok releases) {release : BoardRelease} (member : release ∈ releases) :
    (OsVersion.parse? release.version).isSome = true := by
  unfold parse at parsed
  split at parsed
  · cases parsed
  · split at parsed
    · cases parsed
    · cases parsed
      obtain ⟨⟨buildTarget, version⟩, _, rfl⟩ := List.mem_map.mp member
      rw [OsVersion.parse?_eq_some_iff.mpr rfl]
      rfl

/-- The versions of the operating-system entries of an accepted manifest are well formed. -/
theorem Shallow.isSome_version {strict : Bool} {bytes : Bytes} {manifest : Manifest}
    (accepted : inspectBuffer strict bytes = .ok manifest) {entry : VersionEntry}
    (member : entry ∈ manifest.cros) : (OsVersion.parse? entry.version).isSome = true := by
  obtain ⟨_, _, _, _, _, faultless⟩ := grounded_of_inspectBuffer accepted
  obtain ⟨_, _, admissible⟩ := manifestFault?_eq_none_iff.mp faultless
  exact ((admissible .cros).admissible entry member).version

/-- To consult something is not to download anything. -/
theorem Request.target?_of_consults {request : Request} (consults : request.consults = true) :
    request.target? = none := by
  cases request <;> first | rfl | cases consults

namespace Attempt

variable {σ α β : Type} {host : Host σ} {run : Run σ} {target : Path}

/-- An attempt that only consults downloads nothing. -/
theorem targets_of_consults {attempt : Attempt α} (obeys : attempt.Obeys (·.consults = true))
    (host : Host σ) (run : Run σ) : targets (attempt.exchanges host run) = [] := by
  refine List.filterMap_eq_nil_iff.mpr fun exchange present => ?_
  exact Request.target?_of_consults (Flow.allowed_of_obeys obeys host run exchange present)

/-- What is downloaded in one attempt after another that downloads nothing is downloaded
where the first has led. -/
theorem targets_bind {attempt : Attempt α} {after : α → Attempt β}
    (quiet : targets (attempt.exchanges host run) = [])
    (landed : target ∈ targets ((attempt >>= after).exchanges host run)) :
    ∃ result, (attempt.perform host run).1 = .ok result ∧
      target ∈ targets ((after result).exchanges host (attempt.perform host run).2) ∧
      documents ((attempt >>= after).exchanges host run) =
        documents (attempt.exchanges host run) ++
          documents ((after result).exchanges host (attempt.perform host run).2) := by
  rcases bind_cases host attempt after run with ⟨_, _, _, exchanged⟩ | ⟨result, got, _, exchanged⟩
  · rw [exchanged, quiet] at landed
    cases landed
  · rw [exchanged, targets_append, quiet, List.nil_append] at landed
    exact ⟨result, got, landed, by rw [exchanged, documents_append]⟩

/-- What is downloaded in one attempt before another that downloads nothing is downloaded by
the first. -/
theorem targets_bind_left {attempt : Attempt α} {after : α → Attempt β}
    (quiet : ∀ result left, targets ((after result).exchanges host left) = [])
    (landed : target ∈ targets ((attempt >>= after).exchanges host run)) :
    target ∈ targets (attempt.exchanges host run) ∧
      documents (attempt.exchanges host run) ⊆
        documents ((attempt >>= after).exchanges host run) := by
  rcases bind_cases host attempt after run with ⟨_, _, _, exchanged⟩ | ⟨result, _, _, exchanged⟩
  · rw [exchanged] at landed ⊢
    exact ⟨landed, List.Subset.refl _⟩
  · rw [exchanged, targets_append, quiet, List.append_nil] at landed
    rw [exchanged, documents_append]
    exact ⟨landed, List.subset_append_left _ _⟩

/-- What is downloaded with a scratch directory is downloaded by the action that has it. -/
theorem targets_withScratch {action : Path → Attempt α}
    (landed : target ∈ targets ((withScratch action).exchanges host run)) :
    ∃ directory, (Run.serve host .makeScratch run).1 = .ok directory ∧
      target ∈ targets ((action directory).exchanges host (Run.serve host .makeScratch run).2) ∧
      documents ((withScratch action).exchanges host run) =
        documents ((action directory).exchanges host (Run.serve host .makeScratch run).2) := by
  rcases withScratch_cases host action run with
    ⟨_, _, _, exchanged⟩ | ⟨directory, made, _, exchanged⟩
  · rw [exchanged] at landed
    cases landed
  · have opening : targets [⟨.makeScratch, .ok directory⟩] = [] ∧
        documents [⟨.makeScratch, .ok directory⟩] = [] := ⟨rfl, rfl⟩
    have closing : targets [⟨.dropScratch directory, ()⟩] = [] ∧
        documents [⟨.dropScratch directory, ()⟩] = [] := ⟨rfl, rfl⟩
    rw [← List.singleton_append] at exchanged
    rw [exchanged, targets_append, targets_append, opening.1, closing.1, List.nil_append,
      List.append_nil] at landed
    refine ⟨directory, made, landed, ?_⟩
    rw [exchanged, documents_append, documents_append, opening.2, closing.2, List.nil_append,
      List.append_nil]

/-- A result that is at hand is gone on with at once. -/
theorem targets_ofExcept {given : Except Error α} {after : α → Attempt β}
    (landed : target ∈ targets ((ofExcept given >>= after).exchanges host run)) :
    ∃ result, given = .ok result ∧ target ∈ targets ((after result).exchanges host run) ∧
      documents ((ofExcept given >>= after).exchanges host run) =
        documents ((after result).exchanges host run) :=
  targets_bind rfl landed

/-- What is downloaded once a reader is let read is downloaded by the reading, or where the
reading has led. -/
theorem targets_reading {asked : String → String → Prop} {reading : Reading α}
    {reader : ArchiveReader} {after : α × ArchiveReader → Attempt β}
    (fetches : Reading.Fetches asked reading)
    (landed : target ∈ targets ((Attempt.reading reader reading >>= after).exchanges host run)) :
    (∃ buildTarget version, asked buildTarget version ∧
      target = reader.downloadPath buildTarget version) ∨
    ∃ result left later, (reading.perform host ⟨reader, run⟩).1 = .ok result ∧
      reader.Continues left ∧ target ∈ targets ((after (result, left)).exchanges host later) := by
  rcases bind_cases host (Attempt.reading reader reading) after run with
    ⟨_, _, _, exchanged⟩ | ⟨⟨result, left⟩, read, _, exchanged⟩
  · rw [exchanged, exchanges_reading] at landed
    exact .inl (fetches.lands host ⟨reader, run⟩ landed)
  · rw [exchanged, targets_append, exchanges_reading] at landed
    rcases List.mem_append.mp landed with here | later
    · exact .inl (fetches.lands host ⟨reader, run⟩ here)
    · have performed := reading_ok read
      have continues := fetches.continues host ⟨reader, run⟩
      rw [performed] at continues
      exact .inr ⟨result, left, _, by rw [performed], continues, later⟩

end Attempt

namespace Lab

/-- A build that the documents read by an update name: the build target is one of the current
manifest or of the feed, and the version is one of the manifest, or it is well formed, as those
of the feed are. -/
def UpdateNames (read : List Bytes) (buildTarget version : String) : Prop :=
  ∃ feed ∈ read, ∃ releases, Feed.parse feed = .ok releases ∧
    ∃ current ∈ read, ∃ old, Manifest.decode current = .ok old ∧
      Reconcile.Named old releases buildTarget ∧
      ((∃ entry ∈ old.cros, entry.version = version) ∨ (OsVersion.parse? version).isSome = true)

/-- A build that the documents read by a check of a manifest name: the build target is one of a
manifest that is accepted by itself, and the version is well formed, as those of its
operating-system entries are. -/
def CheckNames (lab : Lab) (read : List Bytes) (buildTarget version : String) : Prop :=
  ∃ bytes ∈ read, ∃ manifest,
    Shallow.inspectBuffer lab.config.strictOsModels bytes = .ok manifest ∧
      (∃ entry ∈ manifest.cros ++ manifest.firmware, entry.key.buildTarget = buildTarget) ∧
      (OsVersion.parse? version).isSome = true

/-- The file below a directory that the record of a build is downloaded to. -/
def recordFile (directory : Path) (buildTarget version : String) : Path :=
  ((directory.join buildTarget).join version).join "metadata.json"

/-- A reader of a flow downloads below the scratch directory of the flow. -/
theorem downloadPath_of_reader {lab : Lab} {workdir : Path} {reader : ArchiveReader}
    (made : lab.reader workdir = .ok reader) (buildTarget version : String) :
    reader.downloadPath buildTarget version = recordFile workdir buildTarget version := by
  have owned : reader.workdir = workdir := by
    unfold Lab.reader at made
    dsimp only at made
    split at made
    · cases made
      rfl
    · cases kind : Backend.ofRoot lab.config.archiveRoot with
      | error error =>
        rw [kind] at made
        cases made
      | ok backend =>
        rw [kind] at made
        cases made
        rfl
  rw [ArchiveReader.downloadPath, owned]
  rfl

section Landing

variable {σ : Type} {host : Host σ} {lab : Lab} {source : ManifestSource} {workdir target : Path}
  {run : Run σ}

/-- An assessment downloads to the files of builds that the documents name which it has
read. -/
theorem lands_assess {feed : String}
    (landed : target ∈ targets ((lab.assess source feed workdir).exchanges host run)) :
    ∃ buildTarget version,
      UpdateNames (documents ((lab.assess source feed workdir).exchanges host run)) buildTarget
        version ∧ target = recordFile workdir buildTarget version := by
  obtain ⟨feedBytes, fetched, landed, first⟩ := Attempt.targets_bind
    (Attempt.targets_of_consults (obeys_fetchFeed feed) host run) landed
  obtain ⟨releases, parsed, landed, second⟩ := Attempt.targets_ofExcept landed
  obtain ⟨⟨bytes, destination⟩, read, landed, third⟩ := Attempt.targets_bind
    (Attempt.targets_of_consults (lab.obeys_readCurrent source workdir) host _) landed
  obtain ⟨old, decoded, landed, fourth⟩ := Attempt.targets_ofExcept landed
  obtain ⟨reader, made, landed, fifth⟩ := Attempt.targets_ofExcept landed
  obtain ⟨_, ofFeed, same⟩ := Feed.reads_fetch feed host run feedBytes fetched
  obtain ⟨_, ofManifest, same'⟩ := lab.reads_readCurrent source workdir host _ _ read
  rw [same] at ofFeed
  rw [same'] at ofManifest
  have names {buildTarget version board : String}
      (named : Reconcile.Named old releases buildTarget)
      (versioned : Reconcile.Versioned old releases board version) :
      UpdateNames (documents ((lab.assess source feed workdir).exchanges host run)) buildTarget
        version := by
    refine ⟨feedBytes, ?_, releases, parsed, bytes, ?_, old, decoded, named, ?_⟩
    · exact first ▸ List.mem_append_left _ ofFeed
    · exact first ▸ List.mem_append_right _ (second ▸ third ▸ List.mem_append_left _ ofManifest)
    · rcases versioned with ⟨entry, member, _, same⟩ | ⟨release, member, _, rfl⟩
      · exact .inl ⟨entry, member, same⟩
      · exact .inr (Feed.isSome_version parsed member)
  rcases Attempt.targets_reading (Reconcile.fetches_reconcile old releases) landed with
    ⟨buildTarget, version, versioned, same⟩ | ⟨outcome, left, _, reconciled, continues, landed⟩
  · exact ⟨buildTarget, version, names versioned.named versioned,
      same.trans (downloadPath_of_reader made _ _)⟩
  · rcases Attempt.targets_reading (Deep.fetches_validate outcome.manifest) landed with
      ⟨buildTarget, version, ⟨⟨entry, member, rfl⟩, ⟨os, ofOs, rfl⟩⟩, same⟩ | ⟨_, _, _, _, _, none⟩
    · obtain ⟨named, versioned⟩ := Reconcile.versioned_of_reconcile reconciled
      refine ⟨_, _, names (named entry member) (versioned os ofOs), ?_⟩
      rw [same, continues.downloadPath, downloadPath_of_reader made]
    · cases none

/-- To put a new manifest where it goes is not to download anything. -/
theorem Destination.target?_of_steps {destination : Destination} {encoded : Bytes}
    {request : Request} (step : request ∈ destination.steps encoded) : request.target? = none := by
  cases destination with
  | file path =>
    simp only [steps, List.mem_cons, List.not_mem_nil, or_false] at step
    rcases step with rfl | rfl <;> rfl
  | review repository checkout =>
    simp only [steps, Repository.steps, Repository.stepsToCommit, List.mem_cons, List.mem_append,
      List.not_mem_nil, or_false] at step
    rcases step with rfl | ((rfl | parent) | rfl) | rfl | rfl | rfl
    case inr.inl.inl.inr =>
      obtain ⟨_, rfl⟩ := Repository.mem_parentSteps parent
      rfl
    all_goals rfl

/-- A conclusion downloads nothing. -/
theorem targets_conclude (host : Host σ) (dryRun : Bool) (output : Option Path)
    (assessment : Assessment) (run : Run σ) :
    targets ((conclude dryRun output assessment).exchanges host run) = [] := by
  by_cases clean : assessment.report = {}
  · have quiet : ∀ request ∈ assessment.steps dryRun output, request.target? = none := by
      intro request step
      rcases List.mem_append.mp step with written | delivered
      · cases output with
        | none => cases written
        | some path =>
          rw [List.mem_singleton.mp written]
          rfl
      · cases dryRun with
        | true => cases delivered
        | false => exact Destination.target?_of_steps delivered
    refine List.filterMap_eq_nil_iff.mpr fun exchange present => quiet _ ?_
    rcases performs_conclude dryRun output clean host run with ⟨_, completed⟩ | ⟨_, _, carried⟩
    · exact completed.carriedOut.mem_steps present
    · exact carried.mem_steps present
  · rw [(conclude_refuses host dryRun output clean run).2]
    rfl

end Landing

/-- Checks a manifest with a scratch directory. -/
def check (lab : Lab) (source : ManifestSource) (letsPass : Bool) (workdir : Path) :
    Attempt Report := do
  let manifest ← lab.inspect source workdir
  let reader ← Attempt.ofExcept (lab.reader workdir)
  let (found, _) ← Attempt.reading reader (Deep.validate manifest)
  let report := if letsPass then found.without lab.config.allowLists else found
  refuseAnomalies report
  return report

/-- A check downloads to the files of builds that the document names which it has read. -/
theorem lands_check {σ : Type} {host : Host σ} {lab : Lab} {source : ManifestSource}
    {letsPass : Bool} {workdir target : Path} {run : Run σ}
    (landed : target ∈ targets ((lab.check source letsPass workdir).exchanges host run)) :
    ∃ buildTarget version,
      CheckNames lab (documents ((lab.check source letsPass workdir).exchanges host run))
        buildTarget version ∧ target = recordFile workdir buildTarget version := by
  obtain ⟨manifest, inspected, landed, read⟩ := Attempt.targets_bind
    (Attempt.targets_of_consults (lab.obeys_inspect source workdir) host run) landed
  obtain ⟨reader, made, landed, _⟩ := Attempt.targets_ofExcept landed
  obtain ⟨bytes, shown, accepted⟩ := lab.reads_inspect source workdir host run manifest inspected
  rcases Attempt.targets_reading (Deep.fetches_validate manifest) landed with
    ⟨buildTarget, version, ⟨named, ⟨os, ofOs, rfl⟩⟩, same⟩ | ⟨found, left, later, _, _, landed⟩
  · refine ⟨buildTarget, os.version, ?_, same.trans (downloadPath_of_reader made _ _)⟩
    exact ⟨bytes, read ▸ List.mem_append_left _ shown, manifest, accepted, named,
      Shallow.isSome_version accepted ofOs⟩
  · have quiet (report : Report) : targets (Attempt.exchanges host
        (refuseAnomalies report >>= fun _ => pure report) later) = [] := by
      unfold refuseAnomalies
      split <;> rfl
    exact absurd landed (by rw [quiet]; exact List.not_mem_nil)

end Lab

/-- What looks up builds: an update, or a check of a manifest. -/
inductive Operation
  | update (source : ManifestSource) (feed : String) (dryRun : Bool) (output : Option Path)
  | check (source : ManifestSource) (letsPass : Bool)

/-- The file of the record of a build below a directory. When the names of the build stay below
the directory, so does the file, and otherwise the file is elsewhere, unless a name of the build
is the last name of the directory. Of a build with a well-formed version, only the build target
matters. -/
structure Lands (directory target : Path) (buildTarget version : String) : Prop where
  file : target = Lab.recordFile directory buildTarget version
  below : Path.confines buildTarget version = true → ∀ here, target.IsBelow here directory
  confined : ∀ here above last, directory.placeFrom here = above ++ [last] →
    last ∉ Path.walk buildTarget version → target.IsBelow here directory →
      Path.confines buildTarget version = true
  wellFormed : (OsVersion.parse? version).isSome = true →
    Path.confines buildTarget version = Path.confines buildTarget ""

/-- The file of a build lands so. -/
theorem lands_recordFile (directory : Path) (buildTarget version : String) :
    Lands directory (Lab.recordFile directory buildTarget version) buildTarget version := by
  have plain : Path.Plain "metadata.json" := ⟨by decide, by decide, by decide, by decide⟩
  refine ⟨rfl, fun stays here => Path.isBelow_of_confines plain stays here directory,
    fun here above last placed fresh below => Path.confines_of_isBelow plain placed fresh below,
    fun spelled => ?_⟩
  obtain ⟨parsed, spelled⟩ := Option.isSome_iff_exists.mp spelled
  exact Path.confines_of_plain (OsVersion.plain spelled) buildTarget

namespace Operation

variable {σ : Type}

/-- The exchanges of an operation. -/
def exchanges (host : Host σ) (lab : Lab) (run : Run σ) : Operation → List Exchange
  | update source feed dryRun output => (lab.update source feed dryRun output).exchanges host run
  | check source letsPass => (lab.validate source letsPass).exchanges host run

/-- The builds that the documents read by an operation name. -/
def Names (lab : Lab) (read : List Bytes) : Operation → String → String → Prop
  | update .., buildTarget, version => Lab.UpdateNames read buildTarget version
  | check .., buildTarget, version => Lab.CheckNames lab read buildTarget version

/-- Whatever an operation downloads goes to the file of a build that the documents name which
the operation has read, below the scratch directory that was made for it as far as the names of
the build stay below it. -/
theorem downloads_land (host : Host σ) (lab : Lab) (operation : Operation) (run : Run σ)
    {target : Path} (downloaded : target ∈ targets (operation.exchanges host lab run)) :
    ∃ directory buildTarget version,
      (Run.serve host .makeScratch run).1 = .ok directory ∧
      operation.Names lab (documents (operation.exchanges host lab run)) buildTarget version ∧
      Lands directory target buildTarget version := by
  cases operation with
  | update source feed dryRun output =>
    simp only [exchanges, Names, Lab.update_eq] at downloaded ⊢
    obtain ⟨directory, made, landed, read⟩ := Attempt.targets_withScratch downloaded
    obtain ⟨landed, more⟩ := Attempt.targets_bind_left
      (fun assessment left => Lab.targets_conclude host dryRun output assessment left) landed
    obtain ⟨buildTarget, version, names, rfl⟩ := Lab.lands_assess landed
    refine ⟨directory, buildTarget, version, made, ?_, lands_recordFile _ _ _⟩
    obtain ⟨feed, ofFeed, releases, parsed, current, ofManifest, known⟩ := names
    exact read ▸ ⟨feed, more ofFeed, releases, parsed, current, more ofManifest, known⟩
  | check source letsPass =>
    have checks : lab.validate source letsPass =
        Attempt.withScratch (lab.check source letsPass) := rfl
    simp only [exchanges, Names, checks] at downloaded ⊢
    obtain ⟨directory, made, landed, read⟩ := Attempt.targets_withScratch downloaded
    obtain ⟨buildTarget, version, names, rfl⟩ := Lab.lands_check landed
    exact ⟨directory, buildTarget, version, made, read ▸ names, lands_recordFile _ _ _⟩

/-- A shelf with a manifest of one operating-system entry and with a feed that lists nothing. -/
def shelfWith (buildTarget : String) : Shelf where
  files := [
    (⟨"/manifest"⟩, Bytes.ofText ("\x7b\"cros\":[\x7b\"key\":\x7b\"buildTarget\":\x7b\"name\":\"" ++
      buildTarget ++ "\"\x7d\x7d,\"version\":\"R77-12371.52.22\"\x7d],\"firmware\":[]\x7d")),
    (⟨"/feed"⟩, Bytes.ofText "\x7b\x7d")]

/-- The files that an operation downloads to on such a shelf. -/
def downloadsWith (buildTarget : String) (operation : Operation) : List Path :=
  targets (operation.exchanges (shelfWith buildTarget).host {} (Run.start ()))

theorem downloads_land_nami :
    ⟨"/scratch/nami/R77-12371.52.22/metadata.json"⟩ ∈
        downloadsWith "nami" (.check (.file ⟨"/manifest"⟩) true) ∧
      ∃ directory buildTarget version,
        (Run.serve (shelfWith "nami").host .makeScratch (Run.start ())).1 = .ok directory ∧
        Operation.Names {}
          (documents (Operation.exchanges (shelfWith "nami").host {} (Run.start ())
            (.check (.file ⟨"/manifest"⟩) true))) (.check (.file ⟨"/manifest"⟩) true)
          buildTarget version ∧
        Lands directory ⟨"/scratch/nami/R77-12371.52.22/metadata.json"⟩ buildTarget version := by
  have downloaded : ⟨"/scratch/nami/R77-12371.52.22/metadata.json"⟩ ∈
      downloadsWith "nami" (.check (.file ⟨"/manifest"⟩) true) := by decide +kernel
  exact ⟨downloaded, downloads_land (shelfWith "nami").host {} _ (Run.start ()) downloaded⟩

/-- A build target that goes up, or that is an absolute path, takes a download out of the
scratch directory. -/
theorem downloads_elsewhere :
    (∃ target ∈ downloadsWith "../outside" (.check (.file ⟨"/manifest"⟩) true),
      ¬ target.IsBelow [] ⟨"/scratch"⟩) ∧
    ∃ target ∈ downloadsWith "/outside" (.update (.file ⟨"/manifest"⟩) "/feed" true none),
      ¬ target.IsBelow [] ⟨"/scratch"⟩ := by
  have outside {target : Path}
      (denotes : target.placeFrom [] = ["outside", "R77-12371.52.22", "metadata.json"]) :
      ¬ target.IsBelow [] ⟨"/scratch"⟩ := by
    rintro ⟨first, rest, below⟩
    have directory : (⟨"/scratch"⟩ : Path).placeFrom [] = ["scratch"] := by decide
    rw [denotes, directory] at below
    simp at below
  exact ⟨⟨⟨"/scratch/../outside/R77-12371.52.22/metadata.json"⟩, by decide +kernel,
      outside (by decide)⟩,
    ⟨⟨"/outside/R77-12371.52.22/metadata.json"⟩, by decide +kernel, outside (by decide)⟩⟩

end Operation

end StableFleet
