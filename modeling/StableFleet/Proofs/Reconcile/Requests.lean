import StableFleet.Proofs.Archive.Heeding
import StableFleet.Proofs.Reconcile.References
import StableFleet.Proofs.Reconcile.Served

/-!
# What a reconciliation asks for

A reconciliation whose reader has kept nothing asks for the record of each build that a
board with a name refers to, once and in ascending order, and before each of them whether
to stop. Nothing that a download is answered with changes what is asked for after it, but
for the answer that the operation was told to stop.
-/

namespace StableFleet

namespace ArchiveReader

/-- A lookup of a build of which nothing is kept asks whether to stop and then for the
record, and counts one fetch, unless it is told to stop. -/
theorem requests_of_unkept {σ : Type} {host : Host σ} {session : Session σ}
    {buildTarget version : String}
    (unkept : session.reader.cache.get? buildTarget version = none)
    (goesOn : ((firmwareVersions buildTarget version).perform host session).1 ≠
      .error .cancelled) :
    ((firmwareVersions buildTarget version).exchanges host session).map (·.request) =
        [.stopped, session.reader.downloadOf buildTarget version] ∧
      ((firmwareVersions buildTarget version).perform host session).2.reader.fetches =
        session.reader.fetches + 1 := by
  rcases lookup_cases host session buildTarget version with
    ⟨_, told, _⟩ | ⟨_, _, kept, _⟩ | ⟨answer, run, _, _, _, looked, asked⟩
  · exact absurd (congrArg Prod.fst told) goesOn
  · cases unkept.symm.trans kept
  · rw [asked, looked]
    refine ⟨rfl, ?_⟩
    unfold afterDownload
    cases answer.bind (Metadata.parse buildTarget) with
    | ok record => rfl
    | error error => rfl

end ArchiveReader

namespace Reconcile

variable {σ : Type} {host : Host σ} {session : Session σ}

/-- The requests for the records of some builds, each after a look at whether to stop. -/
def requestsOf (reader : ArchiveReader) (builds : List (String × String)) : List Request :=
  builds.flatMap fun build => [.stopped, reader.downloadOf build.1 build.2]

/-- Undisturbed lookups of distinct builds of which nothing is kept ask for the record of
each. The induction goes along the builds: a lookup of one keeps nothing of those after
it. -/
theorem requests_of_lookups {builds : List (String × String)} (distinct : builds.Nodup)
    (fresh : ∀ build ∈ builds, session.reader.cache.get? build.1 build.2 = none)
    (undisturbed : Undisturbed (lookups host builds session).1) :
    (lookupExchanges host builds session).map (·.request) = requestsOf session.reader builds ∧
      (lookups host builds session).2.reader.fetches =
        session.reader.fetches + builds.length := by
  induction builds generalizing session with
  | nil => exact ⟨rfl, rfl⟩
  | cons build builds inductionHypothesis =>
    obtain ⟨first, distinct⟩ := List.nodup_cons.mp distinct
    obtain ⟨unkept, fresh⟩ := List.forall_mem_cons.mp fresh
    obtain ⟨goesOn, undisturbed⟩ := List.forall_mem_cons.mp undisturbed
    obtain ⟨asked, counted⟩ := ArchiveReader.requests_of_unkept unkept goesOn
    have stillFresh : ∀ other ∈ builds, ((ArchiveReader.firmwareVersions build.1 build.2).perform
        host session).2.reader.cache.get? other.1 other.2 = none := by
      intro other member
      refine ArchiveReader.unkept_lookup (fun same => first ?_) (fresh other member)
      exact (show build = other from same) ▸ member
    obtain ⟨askedLater, countedLater⟩ := inductionHypothesis distinct stillFresh undisturbed
    have continues := ArchiveReader.continues_lookup host session build.1 build.2
    constructor
    · rw [lookupExchanges, List.map_append, asked, askedLater]
      simp only [requestsOf, List.flatMap_cons, continues.downloadOf]
    · rw [List.length_cons, Nat.add_comm builds.length, ← Nat.add_assoc, ← counted]
      exact countedLater

/-- A reconciliation that has a result, with a reader that has kept nothing, makes the
requests for the records of its builds. -/
theorem requests_of_reconcile {old : Manifest} {releases : List BoardRelease}
    {outcome : Reconciliation} (fresh : session.reader.cache = .empty)
    (reconciled : ((reconcile old releases).perform host session).1 = .ok outcome) :
    ((reconcile old releases).exchanges host session).map (·.request) =
        requestsOf session.reader (builds (BoardVersions.collect old releases).toList) ∧
      ((reconcile old releases).perform host session).2.reader.fetches =
        session.reader.fetches + (builds (BoardVersions.collect old releases).toList).length := by
  obtain ⟨undisturbed, _⟩ := (reconcile_ok_iff host old releases session outcome).mp reconciled
  rw [exchanges_reconcile reconciled, left_of_reconcile reconciled]
  refine requests_of_lookups (builds_nodup (BoardVersions.collect old releases).ascending) ?_
    undisturbed
  intro build _
  rw [fresh]
  rfl

/-- A reconciliation that is not told to stop, with a reader that has kept nothing, asks for
the record of each version that is referred to, where neither the build target nor the
version is empty: once, in ascending order of build targets and versions, with a look at
whether to stop before each, and for nothing else. -/
theorem reconcile_requests (host : Host σ) (old : Manifest) (releases : List BoardRelease)
    (session : Session σ) (fresh : session.reader.cache = .empty)
    (calm : ∀ exchange ∈ (reconcile old releases).exchanges host session, ¬ exchange.Cancels) :
    ∃ (outcome : Reconciliation) (asked : List (String × String)),
      ((reconcile old releases).perform host session).1 = .ok outcome ∧
      asked.Pairwise BuildPrecedes ∧
      (∀ buildTarget version, (buildTarget, version) ∈ asked ↔
        buildTarget ≠ "" ∧ version ≠ "" ∧ Refers old releases buildTarget version) ∧
      ((reconcile old releases).exchanges host session).map (·.request) =
        (asked.flatMap fun build => [.stopped, session.reader.downloadOf build.1 build.2]) ∧
      ((reconcile old releases).perform host session).2.reader.fetches =
        session.reader.fetches + asked.length := by
  obtain ⟨outcome, reconciled⟩ := (Reading.heeds_reconcile old releases).ok_of_calm calm
  obtain ⟨requests, fetches⟩ := requests_of_reconcile fresh reconciled
  refine ⟨outcome, builds (BoardVersions.collect old releases).toList, reconciled,
    builds_ascending (BoardVersions.collect old releases).ascending, ?_, requests, fetches⟩
  exact fun _ _ => mem_builds_iff_refers

/-- On a shelf, nothing tells a run to stop that was not told before. -/
theorem calm_on_shelf {α : Type} (shelf : Shelf) (flow : Flow α) {run : Run Unit}
    (untold : run.stopped = false) :
    ∀ exchange ∈ Flow.exchanges shelf.host flow run, ¬ exchange.Cancels := by
  intro exchange present
  have answered := shelf.answered flow untold exchange present
  obtain ⟨request, answer⟩ := exchange
  obtain rfl : answer = shelf.answer request := answered
  cases request with
  | stopped => exact Bool.noConfusion
  | download backend remote target =>
    -- An object that is missing is reported as missing.
    change shelf.object remote ≠ .error .cancelled
    unfold Shelf.object
    split <;> simp
  | _ => exact id

/-- A manifest with a repeated key, an entry without a build target and one without a
version. -/
def repeatedEntries : Manifest where
  cros := [
    .of "nami" "" "R76-12239.92.0",
    .of "nami" "" "R77-12371.52.22",
    .of "nami" "vayne" "R78-12499.66.0",
    .of "coral" "" "",
    .of "" "" "R77-12371.52.22"]

/-- A feed with two releases of one board. -/
def repeatedReleases : List BoardRelease :=
  [⟨"nami", "R79-12607.82.0"⟩, ⟨"nami", "R78-12499.66.0"⟩, ⟨"coral", "R77-12371.52.22"⟩]

/-- Of the three downloads, the second has a record and the others fail. -/
theorem reconcile_requests_repeated :
    ∃ outcome,
      ((reconcile repeatedEntries repeatedReleases).perform boardRecord.host .fresh).1 =
        .ok outcome ∧
      ((reconcile repeatedEntries repeatedReleases).exchanges boardRecord.host .fresh).map
          (·.request) = requestsOf Session.fresh.reader [("coral", "R77-12371.52.22"),
            ("nami", "R77-12371.52.22"), ("nami", "R78-12499.66.0")] := by
  obtain ⟨outcome, _, reconciled, _⟩ :=
    reconcile_requests boardRecord.host repeatedEntries repeatedReleases .fresh rfl
      (calm_on_shelf _ _ rfl)
  exact ⟨outcome, reconciled, by decide +kernel⟩

end Reconcile

end StableFleet
