import StableFleet.Proofs.Reconcile.Answers
import StableFleet.Proofs.Reconcile.Boards

/-!
# A reconciliation with an archive that stays as it is

The best version of a model is one that its board refers to, so a reconciliation has
looked it up. In an archive that stays as it is, what the reconciliation decides can
therefore be told from the archive, without regard to the lookups: a model is named if
the record of a version that the board refers to names it, and it is resolved if the
record of its best version has firmware for it.
-/

namespace StableFleet

namespace BoardVersions

/-- The best version of a model is one that its board refers to. -/
theorem best?_mem_relevant {versions : BoardVersions} {model best : String}
    (found : versions.best? model = some best) : best ∈ versions.relevant := by
  obtain ⟨version, valid, _⟩ := best?_spec found
  refine mem_relevant_iff.mpr ⟨?_, ?_⟩
  · rintro rfl
    have invalid : OsVersion.parse? "" = none := by decide +kernel
    rw [invalid] at valid
    cases valid
  · rcases best?_eq_some_iff.mp found with ⟨ofFeed, _⟩ | ⟨onRecord, _⟩
    · exact .inl ofFeed
    · rw [pinned] at onRecord
      cases own : versions.perModel.get? model with
      | none =>
        rw [own] at onRecord
        exact .inr (.inl onRecord)
      | some version =>
        rw [own] at onRecord
        exact .inr (.inr ⟨model, own.trans (congrArg some onRecord.symm)⟩)

/-- When the best version of a model has become the one on record, it is still the best
with the same version of the feed. -/
theorem best?_of_pinned {versions later : BoardVersions} {model best : String}
    (found : versions.best? model = some best) (released : later.released = versions.released)
    (pinned : later.pinned model = best) : later.best? model = some best := by
  apply best?_eq_some_iff.mpr
  rw [released, pinned]
  rcases best?_eq_some_iff.mp found with ⟨rfl, new, valid, _⟩ | ⟨rfl, old, valid, greater⟩
  · refine .inl ⟨rfl, new, valid, fun other same => ?_⟩
    cases valid.symm.trans same
    exact new.compare_self_ne_lt
  · exact .inr ⟨rfl, old, valid, greater⟩

end BoardVersions

/-- The firmware that an archive has does not depend on the reader, but for the root. -/
theorem ArchiveReader.firmwareIn_eq {reader other : ArchiveReader} (root : other.root = reader.root)
    (holdings : Holdings) (buildTarget version model : String) :
    other.firmwareIn holdings buildTarget version model =
      reader.firmwareIn holdings buildTarget version model := by
  unfold firmwareIn recordIn metadataPath
  rw [root]

namespace Reconcile

section Served

variable {σ : Type} {host : Host σ} {holdings : Holdings} {old : Manifest}
  {releases : List BoardRelease} {session : Session σ}

/-- The firmware that the lookups of a reconciliation have found at a version. -/
theorem record_of_relevant (serves : host.Serves session.reader.backend holdings)
    (faithful : session.reader.Faithful holdings)
    (undisturbed : Undisturbed (survey host old releases session)) {buildTarget version : String}
    (named : buildTarget ≠ "")
    (relevant : version ∈ (versionsOf old releases buildTarget).relevant) :
    (recordsOf (survey host old releases session) buildTarget).get? version =
      (session.reader.recordIn holdings buildTarget version).toOption := by
  obtain ⟨answer, present⟩ := lookup_of_relevant host session named relevant
  have answered := (answer_of_lookups serves faithful present).resolve_left
    (undisturbed _ present)
  dsimp only at answered
  cases found : session.reader.recordIn holdings buildTarget version with
  | ok record =>
    rw [found] at answered
    cases answered
    exact record_iff_lookup.mpr present
  | error error =>
    rw [found] at answered
    cases kept : (recordsOf (survey host old releases session) buildTarget).get? version with
    | none => rfl
    | some record =>
      -- Another lookup of the same build would have had another answer.
      have other := answer_of_lookups serves faithful (record_iff_lookup.mp kept)
      dsimp only at other
      rw [found] at other
      rcases other with contradiction | contradiction <;> cases contradiction

/-- The lookups of a reconciliation have found firmware of a model at some version
exactly when the archive has, at a version that the board refers to. -/
theorem mem_models_iff (serves : host.Serves session.reader.backend holdings)
    (faithful : session.reader.Faithful holdings)
    (undisturbed : Undisturbed (survey host old releases session)) {buildTarget model : String}
    (named : buildTarget ≠ "") :
    model ∈ models (boardScan old releases (survey host old releases session) buildTarget) ↔
      ∃ version ∈ (versionsOf old releases buildTarget).relevant,
        (session.reader.firmwareIn holdings buildTarget version model).isSome = true := by
  rw [mem_models]
  constructor
  · rintro ⟨version, record, found, names⟩
    obtain ⟨_, own⟩ := relevant_of_record found
    refine ⟨version, own, ?_⟩
    have recorded := record_of_relevant serves faithful undisturbed named own
    rw [boardScan] at found
    rw [ArchiveReader.firmwareIn, ← recorded, found]
    exact names
  · rintro ⟨version, relevant, has⟩
    have recorded := record_of_relevant serves faithful undisturbed named relevant
    rw [ArchiveReader.firmwareIn, ← recorded] at has
    cases found : (recordsOf (survey host old releases session) buildTarget).get? version with
    | none =>
      rw [found] at has
      cases has
    | some record =>
      rw [found] at has
      exact ⟨version, record, found, has⟩

/-- What the lookups of a reconciliation have for the best version of a model is what the
archive has. -/
theorem firmware_of_best (serves : host.Serves session.reader.backend holdings)
    (faithful : session.reader.Faithful holdings)
    (undisturbed : Undisturbed (survey host old releases session))
    {buildTarget model best : String} (named : buildTarget ≠ "")
    (found : (versionsOf old releases buildTarget).best? model = some best) :
    ((recordsOf (survey host old releases session) buildTarget).get? best).bind (·.get? model) =
      session.reader.firmwareIn holdings buildTarget best model := by
  rw [record_of_relevant serves faithful undisturbed named
    (BoardVersions.best?_mem_relevant found)]
  rfl

end Served

end Reconcile

end StableFleet
