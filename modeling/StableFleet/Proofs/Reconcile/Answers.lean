import StableFleet.Proofs.Archive.Holdings
import StableFleet.Proofs.Reconcile.Survey

/-!
# What the lookups of a reconciliation leave behind

The session goes on over the lookups, so every record that one of them has found is
kept at the end. In an archive that stays as it is, each is answered with the record
that is in the archive. And when the builds are distinct and nothing has been kept of
them, each is answered by a download of its own.
-/

namespace StableFleet

namespace ArchiveReader

/-- The answer to a lookup whose download was answered. -/
theorem afterDownload_answer (reader : ArchiveReader) (buildTarget version : String)
    (answer : Except Error Bytes) :
    (reader.afterDownload buildTarget version answer).1 =
      (answer.bind (Metadata.parse buildTarget)).mapError (reportFetch buildTarget version) := by
  unfold afterDownload
  cases answer.bind (Metadata.parse buildTarget) with
  | ok record => rfl
  | error error => rfl

/-- A lookup of one build keeps nothing of another. -/
theorem unkept_lookup {σ : Type} {host : Host σ} {session : Session σ}
    {buildTarget version otherTarget otherVersion : String}
    (different : (buildTarget, version) ≠ (otherTarget, otherVersion))
    (unkept : session.reader.cache.get? otherTarget otherVersion = none) :
    ((firmwareVersions buildTarget version).perform host session).2.reader.cache.get?
      otherTarget otherVersion = none := by
  rcases lookup_cases host session buildTarget version with
    ⟨_, looked, _⟩ | ⟨_, _, _, looked, _⟩ | ⟨answer, run, _, _, _, looked, _⟩
  · rw [looked]
    exact unkept
  · rw [looked]
    exact unkept
  · rw [looked]
    unfold afterDownload
    cases answer.bind (Metadata.parse buildTarget) with
    | error error => exact unkept
    | ok record =>
      refine (FirmwareCache.get?_insert ..).trans ?_
      rw [if_neg]
      · exact unkept
      · rintro ⟨rfl, rfl⟩
        exact different rfl

end ArchiveReader

namespace Reconcile

variable {σ : Type} {host : Host σ} {session : Session σ} {builds : List (String × String)}

/-- A session goes on over lookups. -/
theorem goesOn_lookups (host : Host σ) (builds : List (String × String)) (session : Session σ) :
    session.GoesOn host (lookups host builds session).2 := by
  induction builds generalizing session with
  | nil => exact .refl _
  | cons build builds inductionHypothesis =>
    exact (session.goesOn_lookup host build.1 build.2).trans (inductionHypothesis _)

/-- A record that one of the lookups has found is kept after them. -/
theorem kept_of_lookups {buildTarget version : String} {record : ModelFirmware}
    (found : ⟨buildTarget, version, .ok record⟩ ∈ (lookups host builds session).1) :
    (lookups host builds session).2.reader.cache.get? buildTarget version = some record := by
  induction builds generalizing session with
  | nil => cases found
  | cons build builds inductionHypothesis =>
    rcases List.mem_cons.mp found with here | later
    · obtain ⟨rfl, rfl, answered⟩ := Lookup.mk.inj here
      exact (goesOn_lookups host builds _).continues.keeps
        (ArchiveReader.kept_of_lookup (Prod.ext answered.symm rfl))
    · exact inductionHypothesis later

/-- In an archive that stays as it is, a lookup that is not told to stop is answered
with the record of its build, or with a report why there is none. -/
theorem answer_of_lookups {holdings : Holdings}
    (serves : host.Serves session.reader.backend holdings)
    (faithful : session.reader.Faithful holdings) {lookup : Lookup}
    (present : lookup ∈ (lookups host builds session).1) :
    lookup.answer = .error .cancelled ∨
      lookup.answer = (session.reader.recordIn holdings lookup.buildTarget
        lookup.version).mapError (ArchiveReader.reportFetch lookup.buildTarget lookup.version) := by
  induction builds generalizing session with
  | nil => cases present
  | cons build builds inductionHypothesis =>
    rcases List.mem_cons.mp present with rfl | later
    · obtain ⟨untold, told, _⟩ := ArchiveReader.lookup_serves serves faithful build.1 build.2
      cases stopped : session.run.stopped with
      | true => exact .inl (told stopped)
      | false => exact .inr (untold stopped)
    · have goesOn := session.goesOn_lookup host build.1 build.2
      have answered := inductionHypothesis (goesOn.continues.backend ▸ serves)
        (goesOn.faithful serves faithful) later
      rw [goesOn.continues.recordIn] at answered
      exact answered

/-- In a calm archive that stays as it is, lookups of builds whose downloads are not
told to stop are undisturbed. -/
theorem undisturbed_of_calm {holdings : Holdings}
    (serves : host.Serves session.reader.backend holdings)
    (faithful : session.reader.Faithful holdings) (calm : host.Calm session.reader.backend)
    (untold : session.run.stopped = false)
    (fine : ∀ build ∈ builds,
      session.reader.recordIn holdings build.1 build.2 ≠ .error .cancelled) :
    Undisturbed (lookups host builds session).1 := by
  induction builds generalizing session with
  | nil => exact fun _ => nofun
  | cons build builds inductionHypothesis =>
    intro lookup present
    have goesOn := session.goesOn_lookup host build.1 build.2
    rcases List.mem_cons.mp present with rfl | later
    · have answered :=
        (ArchiveReader.lookup_serves serves faithful build.1 build.2).1 untold
      have here := fine build List.mem_cons_self
      dsimp only
      rw [answered]
      cases recorded : session.reader.recordIn holdings build.1 build.2 with
      | ok record => exact nofun
      | error error =>
        intro told
        rw [recorded] at here
        have reported : ArchiveReader.reportFetch build.1 build.2 error = .cancelled :=
          Except.error.inj told
        exact here (congrArg _ (ArchiveReader.reportFetch_eq_cancelled_iff.mp reported))
    · refine inductionHypothesis (goesOn.continues.backend ▸ serves)
        (goesOn.faithful serves faithful) (goesOn.continues.backend ▸ calm)
        (goesOn.calm calm untold) (fun other member => ?_) lookup later
      rw [goesOn.continues.recordIn]
      exact fine other (List.mem_cons_of_mem _ member)

/-- The exchanges of some lookups in turn. -/
def lookupExchanges (host : Host σ) : List (String × String) → Session σ → List Exchange
  | [], _ => []
  | (buildTarget, version) :: builds, session =>
    (ArchiveReader.firmwareVersions buildTarget version).exchanges host session ++
      lookupExchanges host builds
        ((ArchiveReader.firmwareVersions buildTarget version).perform host session).2

theorem lookupExchanges_append (host : Host σ) (builds others : List (String × String))
    (session : Session σ) :
    lookupExchanges host (builds ++ others) session =
      lookupExchanges host builds session ++
        lookupExchanges host others (lookups host builds session).2 := by
  induction builds generalizing session with
  | nil => rfl
  | cons build builds inductionHypothesis =>
    simp only [List.cons_append, lookupExchanges, lookups, inductionHypothesis,
      List.append_assoc]

/-- Undisturbed lookups of distinct builds of which nothing has been kept are each
answered by a download of the build. -/
theorem download_of_lookups (distinct : builds.Nodup)
    (fresh : ∀ build ∈ builds, session.reader.cache.get? build.1 build.2 = none)
    (undisturbed : Undisturbed (lookups host builds session).1) {lookup : Lookup}
    (present : lookup ∈ (lookups host builds session).1) :
    ∃ answer, session.reader.downloadWith lookup.buildTarget lookup.version answer ∈
        lookupExchanges host builds session ∧
      lookup.answer = (answer.bind (Metadata.parse lookup.buildTarget)).mapError
        (ArchiveReader.reportFetch lookup.buildTarget lookup.version) := by
  induction builds generalizing session with
  | nil => cases present
  | cons build builds inductionHypothesis =>
    obtain ⟨first, distinct⟩ := List.nodup_cons.mp distinct
    have here := undisturbed _ List.mem_cons_self
    rcases List.mem_cons.mp present with rfl | later
    · rcases ArchiveReader.lookup_cases host session build.1 build.2 with
        ⟨_, told, _⟩ | ⟨_, _, kept, _⟩ | ⟨answer, run, _, _, _, looked, asked⟩
      · exact absurd (congrArg Prod.fst told) here
      · cases (fresh build List.mem_cons_self).symm.trans kept
      · refine ⟨answer, ?_, ?_⟩
        · rw [lookupExchanges, asked]
          exact List.mem_append_left _ (List.mem_cons_of_mem _ List.mem_cons_self)
        · exact (congrArg Prod.fst looked).trans
            (ArchiveReader.afterDownload_answer _ _ _ answer)
    · obtain ⟨answer, asked, answered⟩ := inductionHypothesis distinct
        (fun other member => ArchiveReader.unkept_lookup
          (fun same => first ((show build = other from same) ▸ member))
          (fresh other (List.mem_cons_of_mem _ member)))
        (fun other member => undisturbed other (List.mem_cons_of_mem _ member)) later
      have continues := ArchiveReader.continues_lookup host session build.1 build.2
      rw [continues.downloadWith] at asked
      exact ⟨answer, List.mem_append_right _ asked, answered⟩

/-- After a lookup that was not told to stop, a scan makes the exchanges for the versions that
are left. -/
theorem exchanges_scanFrom_cons {host : Host σ} {buildTarget version : String}
    {session left : Session σ} {answer : Except Error ModelFirmware}
    (looked : (ArchiveReader.firmwareVersions buildTarget version).perform host session =
      (answer, left)) (goesOn : answer ≠ .error .cancelled) (versions : List String)
    (records : Table ModelFirmware) :
    (scanFrom buildTarget records (version :: versions)).exchanges host session =
      (ArchiveReader.firmwareVersions buildTarget version).exchanges host session ++
        (scanFrom buildTarget (keepRecord records ⟨buildTarget, version, answer⟩)
          versions).exchanges host left := by
  rw [scanFrom, Reading.exchanges_bind, Reading.exchanges_unlessStopped,
    Reading.perform_unlessStopped_of_ne looked goesOn]
  cases answer <;> rfl

/-- A scan of the versions of a board makes the exchanges of its lookups. -/
theorem exchanges_scanFrom (host : Host σ) (buildTarget : String) (versions : List String)
    (records : Table ModelFirmware) (session : Session σ)
    (undisturbed : Undisturbed (lookups host (versions.map (buildTarget, ·)) session).1) :
    (scanFrom buildTarget records versions).exchanges host session =
      lookupExchanges host (versions.map (buildTarget, ·)) session := by
  induction versions generalizing records session with
  | nil => rfl
  | cons version versions inductionHypothesis =>
    obtain ⟨here, later⟩ := List.forall_mem_cons.mp undisturbed
    rw [exchanges_scanFrom_cons rfl here]
    exact congrArg (_ ++ ·) (inductionHypothesis _ _ later)

/-- A scan of boards makes the exchanges of its lookups. -/
theorem exchanges_scanBoards (host : Host σ) (boards : List (String × BoardVersions))
    (session : Session σ)
    (undisturbed : Undisturbed (lookups host (Reconcile.builds boards) session).1) :
    (scanBoards boards).exchanges host session =
      lookupExchanges host (Reconcile.builds boards) session := by
  induction boards generalizing session with
  | nil => rfl
  | cons board boards inductionHypothesis =>
    obtain ⟨buildTarget, versions⟩ := board
    rw [builds_cons] at undisturbed ⊢
    simp only [scanBoards]
    cases unnamed : buildTarget.isEmpty with
    | true =>
      simp only [unnamed, if_true] at undisturbed ⊢
      exact inductionHypothesis session undisturbed
    | false =>
      simp only [unnamed, Bool.false_eq_true, if_false] at undisturbed ⊢
      rw [lookups_append] at undisturbed
      have own : Undisturbed _ := fun lookup present =>
        undisturbed lookup (List.mem_append_left _ present)
      have later : Undisturbed _ := fun lookup present =>
        undisturbed lookup (List.mem_append_right _ present)
      rw [Reading.exchanges_bind, scanVersions, perform_scanFrom host buildTarget _ _ session own,
        exchanges_scanFrom host buildTarget _ _ session own, lookupExchanges_append]
      congr 1
      dsimp only
      rw [Reading.exchanges_bind, inductionHypothesis _ later]
      cases (scanBoards boards).perform host
          (lookups host (versions.relevant.map (buildTarget, ·)) session).2 with
      | mk scanned left => cases scanned <;> exact List.append_nil _

/-- A reconciliation that has a result leaves the session that its lookups leave. -/
theorem left_of_reconcile {old : Manifest} {releases : List BoardRelease}
    {outcome : Reconciliation}
    (reconciled : ((reconcile old releases).perform host session).1 = .ok outcome) :
    ((reconcile old releases).perform host session).2 =
      (lookups host (Reconcile.builds (BoardVersions.collect old releases).toList) session).2 := by
  obtain ⟨undisturbed, _⟩ := (reconcile_ok_iff host old releases session outcome).mp reconciled
  have scanned := perform_scanBoards host (BoardVersions.collect old releases).toList
    (BoardVersions.collect old releases).ascending session undisturbed
  rw [reconcile, Reading.perform_bind, scanned]
  rfl

/-- A reconciliation that has a result makes the exchanges of its lookups. -/
theorem exchanges_reconcile {old : Manifest} {releases : List BoardRelease}
    {outcome : Reconciliation}
    (reconciled : ((reconcile old releases).perform host session).1 = .ok outcome) :
    (reconcile old releases).exchanges host session =
      lookupExchanges host (Reconcile.builds (BoardVersions.collect old releases).toList)
        session := by
  obtain ⟨undisturbed, _⟩ := (reconcile_ok_iff host old releases session outcome).mp reconciled
  have scanned := perform_scanBoards host (BoardVersions.collect old releases).toList
    (BoardVersions.collect old releases).ascending session undisturbed
  rw [reconcile, Reading.exchanges_bind, exchanges_scanBoards host _ session undisturbed, scanned]
  exact List.append_nil _

/-- On a shelf, with a reader that has kept nothing, a reconciliation has a result. -/
theorem reconcile_on_shelf (shelf : Shelf) (old : Manifest) (releases : List BoardRelease) :
    ((reconcile old releases).perform shelf.host .fresh).1 =
      .ok (assemble old (scans shelf.host old releases .fresh)) := by
  refine (reconcile_ok_iff _ _ _ _ _).mpr ⟨?_, rfl⟩
  apply undisturbed_of_calm (shelf.serves _) (ArchiveReader.faithful_of_empty rfl _)
    (shelf.calm _) rfl
  intro build _
  -- Neither finding an object nor reading a record is ever told to stop.
  unfold ArchiveReader.recordIn Shelf.object
  split
  · unfold Except.bind Metadata.parse
    dsimp only
    split
    · exact nofun
    · split
      · exact nofun
      · exact nofun
  · exact nofun

end Reconcile

end StableFleet
