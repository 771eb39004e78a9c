import StableFleet.Proofs.Archive.Session
import StableFleet.Reconcile.Basic

/-!
# The lookups of a reconciliation

A reconciliation asks the archive for every version that a board refers to, one
board after another. What comes of it depends on the answers alone: unless one of
them says that the operation was told to stop, each board is given the records of
its successful lookups, and failed lookups count as nothing.
-/

namespace StableFleet

/-- A lookup of the record of a build, with its answer. -/
structure Lookup where
  buildTarget : String
  version : String
  answer : Except Error ModelFirmware

namespace Reconcile

variable {σ : Type}

/-- The lookups of some builds in turn, and the session that they leave. -/
def lookups (host : Host σ) : List (String × String) → Session σ → List Lookup × Session σ
  | [], session => ([], session)
  | (buildTarget, version) :: builds, session =>
    let looked := (ArchiveReader.firmwareVersions buildTarget version).perform host session
    let later := lookups host builds looked.2
    (⟨buildTarget, version, looked.1⟩ :: later.1, later.2)

/-- No lookup was answered by being told to stop. -/
def Undisturbed (looked : List Lookup) : Prop := ∀ lookup ∈ looked, lookup.answer ≠ .error .cancelled

/-- The lookups of some builds and then of others. -/
theorem lookups_append (host : Host σ) (builds others : List (String × String))
    (session : Session σ) :
    lookups host (builds ++ others) session =
      ((lookups host builds session).1 ++
        (lookups host others (lookups host builds session).2).1,
        (lookups host others (lookups host builds session).2).2) := by
  induction builds generalizing session with
  | nil => rfl
  | cons build builds inductionHypothesis =>
    simp only [List.cons_append, lookups, inductionHypothesis]

/-- There is one lookup for each build, in order. -/
theorem lookups_builds (host : Host σ) (builds : List (String × String)) (session : Session σ) :
    (lookups host builds session).1.map (fun lookup => (lookup.buildTarget, lookup.version)) =
      builds := by
  induction builds generalizing session with
  | nil => rfl
  | cons build builds inductionHypothesis =>
    simp only [lookups, List.map_cons, inductionHypothesis]

/-- Adds the record of a lookup, if it had one. -/
def keepRecord (records : Table ModelFirmware) (lookup : Lookup) : Table ModelFirmware :=
  match lookup.answer with
  | .ok record => records.insert lookup.version record
  | .error _ => records

/-- After a lookup that was not told to stop, a scan goes on with its record, if it had one. -/
theorem perform_scanFrom_cons {host : Host σ} {buildTarget version : String}
    {session left : Session σ} {answer : Except Error ModelFirmware}
    (looked : (ArchiveReader.firmwareVersions buildTarget version).perform host session =
      (answer, left)) (goesOn : answer ≠ .error .cancelled) (versions : List String)
    (records : Table ModelFirmware) :
    (scanFrom buildTarget records (version :: versions)).perform host session =
      (scanFrom buildTarget (keepRecord records ⟨buildTarget, version, answer⟩) versions).perform
        host left := by
  rw [scanFrom, Reading.perform_bind, Reading.perform_unlessStopped_of_ne looked goesOn]
  cases answer <;> rfl

/-- A scan of the versions of a board keeps the records of its lookups. The
induction goes along the versions, for every table of records kept so far and
every session. -/
theorem perform_scanFrom (host : Host σ) (buildTarget : String) (versions : List String)
    (records : Table ModelFirmware) (session : Session σ)
    (undisturbed : Undisturbed (lookups host (versions.map (buildTarget, ·)) session).1) :
    (scanFrom buildTarget records versions).perform host session =
      (.ok ((lookups host (versions.map (buildTarget, ·)) session).1.foldl keepRecord records),
        (lookups host (versions.map (buildTarget, ·)) session).2) := by
  induction versions generalizing records session with
  | nil => rfl
  | cons version versions inductionHypothesis =>
    obtain ⟨here, later⟩ := List.forall_mem_cons.mp undisturbed
    rw [perform_scanFrom_cons rfl here]
    exact inductionHypothesis _ _ later

/-- A scan of the versions of a board stops at a lookup that was told to. -/
theorem perform_scanFrom_disturbed (host : Host σ) (buildTarget : String) (versions : List String)
    (records : Table ModelFirmware) (session : Session σ)
    (disturbed : ¬ Undisturbed (lookups host (versions.map (buildTarget, ·)) session).1) :
    ((scanFrom buildTarget records versions).perform host session).1 = .error .cancelled := by
  induction versions generalizing records session with
  | nil => exact absurd (List.forall_mem_nil _) disturbed
  | cons version versions inductionHypothesis =>
    cases looked : (ArchiveReader.firmwareVersions buildTarget version).perform host session with
    | mk answer left =>
      by_cases told : answer = .error .cancelled
      · rw [scanFrom, Reading.perform_bind, Reading.perform_unlessStopped, looked, told]
      · rw [perform_scanFrom_cons looked told]
        refine inductionHypothesis _ _ fun undisturbed => disturbed ?_
        simp only [List.map_cons, lookups, looked]
        exact List.forall_mem_cons.mpr ⟨told, undisturbed⟩

/-- The builds that some boards refer to, one board after another. Boards without
a name are passed over. -/
def builds (boards : List (String × BoardVersions)) : List (String × String) :=
  (boards.filter fun board => !board.1.isEmpty).flatMap fun board =>
    board.2.relevant.map (board.1, ·)

/-- The records of the successful lookups of a board. -/
def recordsOf (looked : List Lookup) (buildTarget : String) : Table ModelFirmware :=
  (looked.filter fun lookup => lookup.buildTarget = buildTarget).foldl keepRecord Table.empty

/-- What some lookups have on each board. -/
def scansOf (looked : List Lookup) (boards : List (String × BoardVersions)) : List BoardScan :=
  (boards.filter fun board => !board.1.isEmpty).map fun board =>
    ⟨board.1, board.2, recordsOf looked board.1⟩

theorem builds_cons (board : String × BoardVersions) (boards : List (String × BoardVersions)) :
    builds (board :: boards) =
      if board.1.isEmpty then builds boards
      else board.2.relevant.map (board.1, ·) ++ builds boards := by
  unfold builds
  rw [List.filter_cons]
  cases board.1.isEmpty <;> simp

/-- A build that boards refer to is one of theirs. -/
theorem board_of_builds {boards : List (String × BoardVersions)} {build : String × String}
    (present : build ∈ builds boards) : ∃ board ∈ boards, board.1 = build.1 ∧
      board.1 ≠ "" ∧ build.2 ∈ board.2.relevant := by
  obtain ⟨board, named, listed⟩ := List.mem_flatMap.mp present
  obtain ⟨member, nonempty⟩ := List.mem_filter.mp named
  obtain ⟨version, relevant, rfl⟩ := List.mem_map.mp listed
  refine ⟨board, member, rfl, ?_, relevant⟩
  intro empty
  rw [empty] at nonempty
  cases nonempty

/-- A lookup of some builds is a lookup of one of them. -/
theorem build_of_lookups {host : Host σ} {builds : List (String × String)} {session : Session σ}
    {lookup : Lookup} (present : lookup ∈ (lookups host builds session).1) :
    (lookup.buildTarget, lookup.version) ∈ builds := by
  have mapped := List.mem_map_of_mem (f := fun lookup : Lookup =>
    (lookup.buildTarget, lookup.version)) present
  rw [lookups_builds] at mapped
  exact mapped

/-- Each build is looked up. -/
theorem lookup_of_build {host : Host σ} {builds : List (String × String)} {session : Session σ}
    {buildTarget version : String} (asked : (buildTarget, version) ∈ builds) :
    ∃ answer, ⟨buildTarget, version, answer⟩ ∈ (lookups host builds session).1 := by
  rw [← lookups_builds host builds session] at asked
  obtain ⟨⟨_, _, answer⟩, present, same⟩ := List.mem_map.mp asked
  obtain ⟨rfl, rfl⟩ := Prod.mk.inj same
  exact ⟨answer, present⟩

/-- The records of a board in all lookups are those in its own lookups, when the
others are lookups of other boards. -/
theorem recordsOf_append_left {own others : List Lookup} {buildTarget : String}
    (ours : ∀ lookup ∈ own, lookup.buildTarget = buildTarget)
    (theirs : ∀ lookup ∈ others, lookup.buildTarget ≠ buildTarget) :
    recordsOf (own ++ others) buildTarget = own.foldl keepRecord Table.empty := by
  have kept : own.filter (fun lookup => lookup.buildTarget = buildTarget) = own := by
    simpa [List.filter_eq_self] using ours
  have dropped : others.filter (fun lookup => lookup.buildTarget = buildTarget) = [] := by
    simpa [List.filter_eq_nil_iff] using theirs
  rw [recordsOf, List.filter_append, kept, dropped, List.append_nil]

theorem recordsOf_append_right {others own : List Lookup} {buildTarget : String}
    (theirs : ∀ lookup ∈ others, lookup.buildTarget ≠ buildTarget) :
    recordsOf (others ++ own) buildTarget = recordsOf own buildTarget := by
  have dropped : others.filter (fun lookup => lookup.buildTarget = buildTarget) = [] := by
    simpa [List.filter_eq_nil_iff] using theirs
  rw [recordsOf, List.filter_append, dropped, List.nil_append, recordsOf]

theorem scansOf_cons (looked : List Lookup) (board : String × BoardVersions)
    (boards : List (String × BoardVersions)) :
    scansOf looked (board :: boards) =
      if board.1.isEmpty then scansOf looked boards
      else ⟨board.1, board.2, recordsOf looked board.1⟩ :: scansOf looked boards := by
  unfold scansOf
  rw [List.filter_cons]
  cases board.1.isEmpty <;> simp

/-- The lookups of a board and those of the boards after it do not touch each
other's records. -/
theorem scansOf_append {own later : List Lookup} {board : String × BoardVersions}
    {boards : List (String × BoardVersions)} (named : board.1.isEmpty = false)
    (first : ∀ other ∈ boards, board.1 < other.1)
    (ours : ∀ lookup ∈ own, lookup.buildTarget = board.1)
    (theirs : ∀ lookup ∈ later, lookup.buildTarget ≠ board.1) :
    scansOf (own ++ later) (board :: boards) =
      ⟨board.1, board.2, own.foldl keepRecord Table.empty⟩ :: scansOf later boards := by
  rw [scansOf_cons, named, if_neg Bool.false_ne_true, recordsOf_append_left ours theirs]
  congr 1
  refine List.map_congr_left ?_
  intro other member
  rw [recordsOf_append_right]
  intro lookup present same
  have below := first other (List.mem_filter.mp member).1
  rw [← same, ours lookup present] at below
  exact String.lt_irrefl _ below

/-- A scan of boards with different names gives each the records of its lookups.
The induction goes along the boards. -/
theorem perform_scanBoards (host : Host σ) (boards : List (String × BoardVersions))
    (ascending : boards.Pairwise fun left right => left.1 < right.1) (session : Session σ)
    (undisturbed : Undisturbed (lookups host (builds boards) session).1) :
    (scanBoards boards).perform host session =
      (.ok (scansOf (lookups host (builds boards) session).1 boards),
        (lookups host (builds boards) session).2) := by
  induction boards generalizing session with
  | nil => rfl
  | cons board boards inductionHypothesis =>
    obtain ⟨buildTarget, versions⟩ := board
    obtain ⟨first, ascending⟩ := List.pairwise_cons.mp ascending
    rw [builds_cons] at undisturbed ⊢
    simp only [scanBoards]
    cases unnamed : buildTarget.isEmpty with
    | true =>
      simp only [unnamed, if_true] at undisturbed ⊢
      rw [inductionHypothesis ascending session undisturbed, scansOf_cons, if_pos unnamed]
    | false =>
      simp only [unnamed, Bool.false_eq_true, if_false] at undisturbed ⊢
      rw [lookups_append] at undisturbed ⊢
      have own : Undisturbed _ := fun lookup present =>
        undisturbed lookup (List.mem_append_left _ present)
      have later : Undisturbed _ := fun lookup present =>
        undisturbed lookup (List.mem_append_right _ present)
      rw [Reading.perform_bind, scanVersions, perform_scanFrom host buildTarget _ _ session own]
      simp only [Reading.perform_bind, inductionHypothesis ascending _ later, Reading.perform_pure]
      have ours : ∀ lookup ∈ (lookups host (versions.relevant.map (buildTarget, ·)) session).1,
          lookup.buildTarget = buildTarget := by
        intro lookup present
        obtain ⟨version, _, same⟩ := List.mem_map.mp (build_of_lookups present)
        exact (congrArg Prod.fst same).symm
      have theirs : ∀ lookup ∈ (lookups host (builds boards)
          (lookups host (versions.relevant.map (buildTarget, ·)) session).2).1,
          lookup.buildTarget ≠ buildTarget := by
        intro lookup present same
        obtain ⟨other, member, named, _⟩ := board_of_builds (build_of_lookups present)
        have below := first other member
        rw [named, same] at below
        exact String.lt_irrefl _ below
      rw [scansOf_append unnamed first ours theirs]

/-- A scan of boards stops at a lookup that was told to. -/
theorem perform_scanBoards_disturbed (host : Host σ) (boards : List (String × BoardVersions))
    (session : Session σ)
    (disturbed : ¬ Undisturbed (lookups host (builds boards) session).1) :
    ((scanBoards boards).perform host session).1 = .error .cancelled := by
  induction boards generalizing session with
  | nil => exact absurd (fun lookup present => by cases present) disturbed
  | cons board boards inductionHypothesis =>
    obtain ⟨buildTarget, versions⟩ := board
    rw [builds_cons] at disturbed
    simp only [scanBoards]
    cases unnamed : buildTarget.isEmpty with
    | true =>
      simp only [unnamed, if_true] at disturbed ⊢
      exact inductionHypothesis session disturbed
    | false =>
      simp only [unnamed, Bool.false_eq_true, if_false] at disturbed ⊢
      rw [lookups_append] at disturbed
      rw [Reading.perform_bind, scanVersions]
      by_cases own : Undisturbed (lookups host (versions.relevant.map (buildTarget, ·)) session).1
      · have later : ¬ Undisturbed (lookups host (builds boards)
            (lookups host (versions.relevant.map (buildTarget, ·)) session).2).1 := by
          intro later
          refine disturbed ?_
          intro lookup present
          rcases List.mem_append.mp present with ours | theirs
          · exact own lookup ours
          · exact later lookup theirs
        have stops := inductionHypothesis _ later
        rw [perform_scanFrom host buildTarget _ _ session own]
        simp only [Reading.perform_bind]
        rw [← Prod.eta ((scanBoards boards).perform host _), stops]
      · have stops := perform_scanFrom_disturbed host buildTarget _ Table.empty session own
        rw [← Prod.eta ((scanFrom buildTarget Table.empty _).perform host session), stops]

/-- The lookups of a reconciliation. -/
def survey (host : Host σ) (old : Manifest) (releases : List BoardRelease) (session : Session σ) :
    List Lookup :=
  (lookups host (builds (BoardVersions.collect old releases).toList) session).1

/-- What the lookups of a reconciliation have on each board. -/
def scans (host : Host σ) (old : Manifest) (releases : List BoardRelease) (session : Session σ) :
    List BoardScan :=
  scansOf (survey host old releases session) (BoardVersions.collect old releases).toList

/-- A reconciliation has a result exactly when it is not told to stop, and then it
is assembled from what the lookups have. -/
theorem reconcile_ok_iff (host : Host σ) (old : Manifest) (releases : List BoardRelease)
    (session : Session σ) (outcome : Reconciliation) :
    ((reconcile old releases).perform host session).1 = .ok outcome ↔
      Undisturbed (survey host old releases session) ∧
        outcome = assemble old (scans host old releases session) := by
  have ascending : (BoardVersions.collect old releases).toList.Pairwise
      fun left right => left.1 < right.1 := (BoardVersions.collect old releases).ascending
  rw [reconcile, Reading.perform_bind]
  by_cases undisturbed : Undisturbed (survey host old releases session)
  · rw [perform_scanBoards host _ ascending session undisturbed]
    constructor
    · intro same
      cases same
      exact ⟨undisturbed, rfl⟩
    · rintro ⟨_, rfl⟩
      rfl
  · have stops := perform_scanBoards_disturbed host _ session undisturbed
    rw [← Prod.eta ((scanBoards _).perform host session), stops]
    constructor
    · intro same
      cases same
    · rintro ⟨fine, _⟩
      exact absurd fine undisturbed

/-- What is kept of some lookups under a version is the record of the lookup of
that version, or what was kept before if that lookup had none. -/
theorem get?_foldl_keepRecord {looked : List Lookup}
    (distinct : (looked.map (·.version)).Nodup) (records : Table ModelFirmware) (version : String)
    (record : ModelFirmware) :
    (looked.foldl keepRecord records).get? version = some record ↔
      (∃ lookup ∈ looked, lookup.version = version ∧ lookup.answer = .ok record) ∨
        ((∀ lookup ∈ looked, lookup.version = version → ∀ other, lookup.answer ≠ .ok other) ∧
          records.get? version = some record) := by
  induction looked generalizing records with
  | nil => simp
  | cons lookup rest inductionHypothesis =>
    obtain ⟨fresh, distinct⟩ := List.nodup_cons.mp distinct
    rw [List.foldl_cons, inductionHypothesis distinct]
    simp only [List.mem_cons, exists_eq_or_imp, forall_eq_or_imp]
    by_cases here : lookup.version = version
    · -- No later lookup is one of this version.
      have noLater : ∀ other ∈ rest, other.version ≠ version := by
        intro other present same
        refine fresh (List.mem_map.mpr ⟨other, present, ?_⟩)
        exact same.trans here.symm
      have none : ¬ ∃ other ∈ rest, other.version = version ∧ other.answer = .ok record := by
        rintro ⟨other, present, same, _⟩
        exact noLater other present same
      have quiet : ∀ other ∈ rest, other.version = version → ∀ found, other.answer ≠ .ok found := by
        intro other present same
        exact absurd same (noLater other present)
      cases answered : lookup.answer with
      | ok found =>
        simp only [none, keepRecord, answered, here, Table.get?_insert, if_true, false_or,
          or_false, Option.some.injEq, Except.ok.injEq, true_and]
        constructor
        · rintro ⟨_, same⟩
          exact .inl same
        · rintro (same | ⟨⟨contradiction, _⟩, _⟩)
          · exact ⟨quiet, same⟩
          · exact absurd rfl (contradiction trivial found)
      | error error => simp [none, keepRecord, answered, here]
    · have unchanged : (keepRecord records lookup).get? version = records.get? version := by
        unfold keepRecord
        split
        · rw [Table.get?_insert, if_neg (Ne.symm here)]
        · rfl
      simp [here, unchanged]

/-- The versions that a board refers to are in strictly ascending order. -/
theorem relevant_ascending (versions : BoardVersions) :
    versions.relevant.Pairwise fun left right => left < right :=
  (TextSet.ofList _).ascending

/-- A build comes before another by its build target, or else by its version. -/
def BuildPrecedes (left right : String × String) : Prop :=
  left.1 < right.1 ∨ left.1 = right.1 ∧ left.2 < right.2

/-- A build does not come before itself. -/
theorem BuildPrecedes.ne {left right : String × String} (before : BuildPrecedes left right) :
    left ≠ right := by
  rintro rfl
  rcases before with below | ⟨_, below⟩
  · exact String.lt_irrefl _ below
  · exact String.lt_irrefl _ below

/-- The builds that boards in ascending order refer to are in ascending order. -/
theorem builds_ascending {boards : List (String × BoardVersions)}
    (ascending : boards.Pairwise fun left right => left.1 < right.1) :
    (builds boards).Pairwise BuildPrecedes := by
  refine List.pairwise_flatMap.mpr ⟨?_, ?_⟩
  · intro board _
    exact List.pairwise_map.mpr ((relevant_ascending board.2).imp fun below => .inr ⟨rfl, below⟩)
  · refine (ascending.filter _).imp ?_
    intro left right below first inLeft second inRight
    obtain ⟨_, _, rfl⟩ := List.mem_map.mp inLeft
    obtain ⟨_, _, rfl⟩ := List.mem_map.mp inRight
    exact .inl below

/-- Boards with different names refer to each build once. -/
theorem builds_nodup {boards : List (String × BoardVersions)}
    (ascending : boards.Pairwise fun left right => left.1 < right.1) : (builds boards).Nodup :=
  (builds_ascending ascending).imp BuildPrecedes.ne

/-- The records of a board are those of its successful lookups. -/
theorem get?_recordsOf {host : Host σ} {boards : List (String × BoardVersions)}
    (ascending : boards.Pairwise fun left right => left.1 < right.1) (session : Session σ)
    (buildTarget version : String) (record : ModelFirmware) :
    (recordsOf (lookups host (builds boards) session).1 buildTarget).get? version = some record ↔
      ⟨buildTarget, version, .ok record⟩ ∈ (lookups host (builds boards) session).1 := by
  have pairs : ((lookups host (builds boards) session).1.map
      fun lookup => (lookup.buildTarget, lookup.version)).Nodup := by
    rw [lookups_builds]
    exact builds_nodup ascending
  have distinct : (((lookups host (builds boards) session).1.filter
      fun lookup => lookup.buildTarget = buildTarget).map (·.version)).Nodup := by
    refine List.pairwise_map.mpr (List.pairwise_filter.mpr ((List.pairwise_map.mp pairs).imp ?_))
    intro left right different ofLeft ofRight same
    refine different (Prod.ext ?_ same)
    exact (of_decide_eq_true ofLeft).trans (of_decide_eq_true ofRight).symm
  rw [recordsOf, get?_foldl_keepRecord distinct]
  constructor
  · rintro (⟨lookup, present, rfl, answered⟩ | ⟨_, kept⟩)
    · obtain ⟨member, ours⟩ := List.mem_filter.mp present
      obtain ⟨place, asked, answer⟩ := lookup
      cases of_decide_eq_true ours
      cases answered
      exact member
    · cases kept
  · intro member
    exact .inl ⟨_, List.mem_filter.mpr ⟨member, decide_eq_true rfl⟩, rfl, rfl⟩

/-- The records that a reconciliation has of a board are those of its successful lookups. -/
theorem record_iff_lookup {host : Host σ} {old : Manifest} {releases : List BoardRelease}
    {session : Session σ} {buildTarget version : String} {record : ModelFirmware} :
    (recordsOf (survey host old releases session) buildTarget).get? version = some record ↔
      ⟨buildTarget, version, .ok record⟩ ∈ survey host old releases session :=
  get?_recordsOf (BoardVersions.collect old releases).ascending session buildTarget version record

end Reconcile

end StableFleet
