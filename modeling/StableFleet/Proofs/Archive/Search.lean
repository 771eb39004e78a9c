import StableFleet.Proofs.Archive.Probing
import StableFleet.Proofs.Flow.Shelf

/-!
# How an archive is searched for a bundle

A search looks whether it was told to stop and checks candidates, and does nothing else. The
candidates of a milestone are all checked, whatever is found, and the outcomes stand in the
order of the candidates, in whichever order the checks were made. So a search that is not told
to stop finds the first candidate that has the bundle.

It fails when a look tells it to stop, and says so. The answer of a check is no such look: an
archive that answers that the operation was told to stop counts as one that does not have the
object, like one that cannot tell for any other reason.

This holds of every course of a search. There the checks of a milestone are made in the one
order or the other, and every look may tell the operation to stop or not, whatever another has
told it.
-/

namespace StableFleet

open BundleQuery (found)

namespace Attempt.Composes

variable {holds : (α : Type) → Attempt α → Prop} (composes : Composes holds)
  {reader : ArchiveReader}

include composes

theorem probeInTurn {candidates : List String}
    (probes : ∀ candidate ∈ candidates, holds _ (reader.probe candidate)) :
    holds _ (reader.probeInTurn candidates) := by
  induction candidates with
  | nil => exact composes.pure []
  | cons candidate candidates inductionHypothesis =>
    obtain ⟨here, later⟩ := List.forall_mem_cons.mp probes
    exact composes.alongside here (inductionHypothesis later)

/-- The candidates of a milestone are probed in one order or the other. -/
theorem probeAll {candidates : List String}
    (probes : ∀ candidate ∈ candidates, holds _ (reader.probe candidate)) (lastFirst : Bool) :
    holds _ (reader.probeAll lastFirst candidates) := by
  cases lastFirst with
  | false => exact composes.probeInTurn probes
  | true =>
    have reversed : holds _ (reader.probeInTurn candidates.reverse) :=
      composes.probeInTurn fun candidate present => probes candidate (List.mem_reverse.mp present)
    exact composes.bind reversed fun answers => composes.pure answers.reverse

/-- Milestones are searched by looks and probes. -/
theorem searchGroups (looks : holds _ checkpoint) {groups : List (List String)}
    (probes : ∀ candidate ∈ groups.flatten, holds _ (reader.probe candidate))
    (lastFirst : Nat → Bool) : holds _ (reader.searchGroups lastFirst groups) := by
  induction groups generalizing lastFirst with
  | nil => exact composes.pure none
  | cons group groups inductionHypothesis =>
    obtain ⟨here, later⟩ := List.forall_mem_append.mp probes
    refine composes.bind looks fun _ => composes.bind (composes.probeAll here _) fun answers => ?_
    cases ArchiveReader.firstFound? group answers with
    | some path => exact composes.pure (some path)
    | none => exact inductionHypothesis later _

end Attempt.Composes

namespace ArchiveReader

variable {reader : ArchiveReader} {checks : String → Except Error Bool}

/-- The first place is found for which the answer is that it has the bundle. -/
theorem firstFound?_map (candidates : List String) (has : String → Bool) :
    firstFound? candidates (candidates.map has) = candidates.find? has := by
  induction candidates with
  | nil => rfl
  | cons candidate candidates inductionHypothesis =>
    rw [List.find?_cons, ← inductionHypothesis]
    cases having : has candidate <;> simp [firstFound?, having]

theorem gives_probeInTurn (candidates : List String) :
    (reader.probeInTurn candidates).Gives checks
      (candidates.map fun path => found (checks path)) := by
  induction candidates with
  | nil => exact Attempt.gives_pure []
  | cons candidate candidates inductionHypothesis =>
    exact (gives_probe reader candidate checks).alongside inductionHypothesis

/-- The answers stand in the order of the candidates, whichever was probed first. -/
theorem gives_probeAll (lastFirst : Bool) (candidates : List String) :
    (reader.probeAll lastFirst candidates).Gives checks
      (candidates.map fun path => found (checks path)) := by
  cases lastFirst with
  | false => exact gives_probeInTurn candidates
  | true =>
    have reversed : (reader.probeInTurn candidates.reverse).Gives checks
        (candidates.map fun path => found (checks path)).reverse := by
      rw [← List.map_reverse]
      exact gives_probeInTurn candidates.reverse
    rw [← List.reverse_reverse (candidates.map fun path => found (checks path))]
    exact reversed.bind (Attempt.gives_pure _)

/-- Milestones in turn give the first of all candidates that has the bundle. -/
theorem gives_searchGroups (lastFirst : Nat → Bool) (groups : List (List String)) :
    (reader.searchGroups lastFirst groups).Gives checks
      (groups.flatten.find? fun path => found (checks path)) := by
  induction groups generalizing lastFirst with
  | nil => exact Attempt.gives_pure none
  | cons group groups inductionHypothesis =>
    refine Attempt.gives_checkpoint.bind ((gives_probeAll (lastFirst 0) group).bind ?_)
    rw [firstFound?_map, List.flatten_cons, List.find?_append]
    cases group.find? fun path => found (checks path) with
    | some path => exact Attempt.gives_pure (some path)
    | none => exact inductionHypothesis _

/-- A search goes through the milestones, and concludes from what it has found. -/
theorem course_locateBundle {query : BundleQuery} {lastFirst : Nat → Bool}
    {exchanges : List Exchange} {answer : Except Error String} :
    Flow.Course (reader.locateBundle query lastFirst).run exchanges answer ↔
      ∃ searched, Flow.Course
          (reader.searchGroups lastFirst (query.candidates reader.root)).run exchanges searched ∧
        answer = searched.bind (query.conclude reader.root) := by
  constructor
  · intro course
    obtain ⟨before, later, searched, rfl, began, ended⟩ := Flow.course_bind course
    refine ⟨searched, ?_⟩
    rcases searched with error | _ | path <;> cases ended <;>
      exact ⟨(List.append_nil before).symm ▸ began, rfl⟩
  · rintro ⟨searched, course, rfl⟩
    rw [← List.append_nil exchanges]
    refine Flow.Course.andThen course ?_
    rcases searched with error | _ | path <;> exact .done _

/-- A search that is not told to stop concludes from the first candidate that has the bundle. -/
theorem locateBundle_eq {query : BundleQuery} {lastFirst : Nat → Bool}
    {exchanges : List Exchange} {answer : Except Error String}
    (course : Flow.Course (reader.locateBundle query lastFirst).run exchanges answer)
    (agree : ∀ exchange ∈ exchanges, exchange.Agrees checks) :
    answer = query.conclude reader.root
      ((query.candidates reader.root).flatten.find? fun path => found (checks path)) := by
  obtain ⟨searched, gone, rfl⟩ := course_locateBundle.mp course
  rw [gives_searchGroups lastFirst _ exchanges searched gone agree]
  rfl

/-- What a search asks for: whether it was told to stop, and checks of the paths of the places
that are looked at. -/
def Searches (reader : ArchiveReader) (query : BundleQuery) (request : Request) : Prop :=
  request = .stopped ∨ ∃ place, query.Looks place ∧
    request = .probe reader.backend (query.path reader.root place)

theorem asks_locateBundle (reader : ArchiveReader) (query : BundleQuery) (lastFirst : Nat → Bool) :
    Flow.Asks (reader.Searches query) (reader.locateBundle query lastFirst).run := by
  intro exchanges answer course
  obtain ⟨searched, gone, _⟩ := course_locateBundle.mp course
  have probes : ∀ candidate ∈ (query.candidates reader.root).flatten,
      Flow.Asks (reader.Searches query) (reader.probe candidate).run := by
    intro candidate present
    rw [query.flatten_candidates] at present
    obtain ⟨place, listed, rfl⟩ := List.mem_map.mp present
    exact asks_probe reader _ (.inl rfl) (.inr ⟨place, query.mem_places_iff.mp listed, rfl⟩)
  have searches := (Attempt.Composes.ofFlow Flow.composes_asks).searchGroups
    (Attempt.asks_checkpoint (.inl rfl)) probes lastFirst
  exact searches exchanges searched gone

/-- A search as a reading. It has no use for what the reader keeps. -/
def searching (query : BundleQuery) (lastFirst : Nat → Bool) : Reading String :=
  ExceptT.mk fun reader => do return (← (reader.locateBundle query lastFirst).run, reader)

theorem course_searching {query : BundleQuery} {lastFirst : Nat → Bool}
    {reader left : ArchiveReader} {exchanges : List Exchange} {answer : Except Error String}
    (course : Flow.Course ((searching query lastFirst).with reader) exchanges (answer, left)) :
    Flow.Course (reader.locateBundle query lastFirst).run exchanges answer ∧ left = reader := by
  obtain ⟨before, later, outcome, rfl, located, ended⟩ := Flow.course_bind course
  obtain ⟨rfl, same⟩ := Flow.course_pure ended
  obtain ⟨rfl, rfl⟩ := Prod.mk.inj same
  rw [List.append_nil]
  exact ⟨located, rfl⟩

/-- The answers of surroundings that never tell an operation to stop, in which checks find what
they are said to find. -/
def answersOf (checks : String → Except Error Bool) : (request : Request) → request.Answer
  | .probe _ path => checks path
  | request => ({} : Shelf).answer request

/-- A search that is not told to stop comes to an end, and finds the first place that has the
bundle, in whichever order the variants of a milestone are checked, and whatever else the checks
answer. It checks places that are looked at and nothing else; so it downloads nothing, and the
reader is left as it was. -/
theorem searching_finds_first (query : BundleQuery) (lastFirst : Nat → Bool)
    (checks : String → Except Error Bool) (reader : ArchiveReader) :
    (∃ exchanges outcome, Flow.Course ((searching query lastFirst).with reader) exchanges outcome ∧
      ∀ exchange ∈ exchanges, exchange.Agrees checks) ∧
    (∀ exchanges answer left,
      Flow.Course ((searching query lastFirst).with reader) exchanges (answer, left) →
      (∀ exchange ∈ exchanges, exchange.Agrees checks) →
      (∀ other, query.Finds reader.root checks other ↔ other = answer) ∧
        (∀ exchange ∈ exchanges, reader.Searches query exchange.request) ∧ left = reader) ∧
    query.Orderly reader.root := by
  refine ⟨?_, fun exchanges answer left course agree => ?_, query.orderly reader.root⟩
  · obtain ⟨exchanges, outcome, course, answered⟩ :=
      Flow.exists_course ((searching query lastFirst).with reader) (answersOf checks)
    refine ⟨exchanges, outcome, course, fun exchange present => ?_⟩
    exact Exchange.agrees rfl (fun _ _ => rfl) (answered exchange present)
  · obtain ⟨located, unchanged⟩ := course_searching course
    have finds : query.Finds reader.root checks answer := by
      rw [locateBundle_eq located agree]
      exact query.finds_first reader.root checks
    refine ⟨fun other => ⟨fun finds' => finds'.unique finds, ?_⟩, ?_, unchanged⟩
    · rintro rfl
      exact finds
    · exact asks_locateBundle reader query lastFirst exchanges answer located

end ArchiveReader

/-- A reader of an archive from which nothing was read yet. -/
def newReader : ArchiveReader := .new .objectStore "gs://archive" ⟨"/work"⟩

/-- The bundle of a board at milestone 80. -/
def namiBundle : BundleQuery := ⟨"nami", 80, 1, 2, "fw"⟩

/-- The bundle is there at the milestone after the one asked for, and at the one before it. -/
def nearbyBundles : Shelf where
  objects := [("gs://archive/nami-release/R79-1.2.0/fw", default),
    ("gs://archive/nami-firmware/R81-1.2.0/fw", default)]

namespace ArchiveReader

theorem searching_finds_first_nearby :
    namiBundle.Finds "gs://archive" (fun path => .ok (nearbyBundles.objects.lookup path).isSome)
      (.ok "gs://archive/nami-firmware/R81-1.2.0/fw") := by
  have course := Flow.course_run nearbyBundles.host
    ((searching namiBundle fun _ => true).with newReader) (.start ())
  have answered := nearbyBundles.answered
    ((searching namiBundle fun _ => true).with newReader) (rfl : (Run.start ()).stopped = false)
  obtain ⟨_, first, _⟩ := searching_finds_first namiBundle (fun _ => true)
    (fun path => .ok (nearbyBundles.objects.lookup path).isSome) newReader
  obtain ⟨finds, _⟩ := first _ _ _ course fun exchange present =>
    Exchange.agrees rfl (fun _ _ => rfl) (answered exchange present)
  exact (finds _).mpr rfl

/-- A search says that it was told to stop when a look tells it so, and only then. It comes to
the same when all checks that fail do not find the object instead. -/
theorem locateBundle_cancelled_iff {reader : ArchiveReader} {query : BundleQuery}
    {lastFirst : Nat → Bool} {exchanges : List Exchange} {answer : Except Error String}
    (course : Flow.Course (reader.locateBundle query lastFirst).run exchanges answer) :
    (answer = .error .cancelled ↔ ⟨.stopped, true⟩ ∈ exchanges) ∧
      Flow.Course (reader.locateBundle query lastFirst).run (exchanges.map Exchange.settled)
        answer := by
  obtain ⟨searched, gone, rfl⟩ := course_locateBundle.mp course
  have attends := Attempt.composes_attends.searchGroups Attempt.attends_checkpoint
    (fun candidate _ => attends_probe reader candidate) lastFirst exchanges searched gone
  have indifferent := (Attempt.Composes.ofFlow Flow.composes_indifferent).searchGroups
    Attempt.indifferent_checkpoint (fun candidate _ => indifferent_probe reader candidate)
    lastFirst exchanges searched gone
  refine ⟨?_, course_locateBundle.mpr ⟨searched, indifferent, rfl⟩⟩
  rcases attends with ⟨told, rfl⟩ | ⟨untold, result, rfl⟩
  · exact ⟨fun _ => told, fun _ => rfl⟩
  · cases result <;> exact ⟨nofun, fun told => absurd told untold⟩

end ArchiveReader

/-- The surroundings in which a bundle is there in the second variant, while the check of the
first one answers that the operation was told to stop. -/
def interrupted : Host Unit where
  reply
    | .probe _ "gs://archive/nami-release/R80-1.2.0/fw", state => ⟨.error .cancelled, false, state⟩
    | .probe _ "gs://archive/nami-firmware/R80-1.2.0/fw", state => ⟨.ok true, false, state⟩
    | request, state => ({} : Shelf).host.reply request state

namespace ArchiveReader

theorem locateBundle_cancelled_iff_interrupted :
    ⟨.stopped, true⟩ ∉ (newReader.locateBundle namiBundle).exchanges interrupted (.start ()) ∧
      Flow.Course (newReader.locateBundle namiBundle).run
        (((newReader.locateBundle namiBundle).exchanges interrupted (.start ())).map
          Exchange.settled)
        (.ok "gs://archive/nami-firmware/R80-1.2.0/fw") := by
  obtain ⟨told, settled⟩ := locateBundle_cancelled_iff
    (Flow.course_run interrupted (newReader.locateBundle namiBundle).run (.start ()))
  refine ⟨fun stopped => ?_, settled⟩
  cases told.mpr stopped

/-- A check answers that the operation was told to stop, and the search comes to a path. -/
theorem locateBundle_overlooks_cancelled :
    ⟨.probe .objectStore "gs://archive/nami-release/R80-1.2.0/fw", .error .cancelled⟩ ∈
        (newReader.locateBundle namiBundle).exchanges interrupted (.start ()) ∧
      ((newReader.locateBundle namiBundle).perform interrupted (.start ())).1 =
        .ok "gs://archive/nami-firmware/R80-1.2.0/fw" :=
  ⟨.tail _ (.tail _ (.head _)), rfl⟩

end ArchiveReader

end StableFleet
