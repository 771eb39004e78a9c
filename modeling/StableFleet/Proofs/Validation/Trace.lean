import StableFleet.Proofs.Flow.Lookups
import StableFleet.Proofs.Validation.Progress

/-!
# The check of a manifest, entry by entry

A check of a manifest comes to a report unless it is told to stop. What it asks for is
what it asks for at each entry in turn, first the operating-system entries and then the
firmware entries; and each entry is checked from where the entries before it have led.
-/

namespace StableFleet

namespace Reading

variable {σ α β : Type}

/-- A reading always has a result, unless it is told to stop. -/
def Persists (host : Host σ) (reading : Reading α) : Prop :=
  ∀ session : Session σ, (reading.perform host session).1 = .error .cancelled ∨
    ∃ result left, reading.perform host session = (.ok result, left)

variable {host : Host σ}

theorem persists_pure (result : α) : Persists host (pure result) :=
  fun session => .inr ⟨result, session, rfl⟩

theorem persists_unlessStopped (reading : Reading α) :
    Persists host (ArchiveReader.unlessStopped reading) := by
  intro session
  rw [perform_unlessStopped]
  cases reading.perform host session with
  | mk answer left =>
    cases answer with
    | ok result => exact .inr ⟨.ok result, left, rfl⟩
    | error error =>
      cases error with
      | cancelled => exact .inl rfl
      | _ => exact .inr ⟨.error _, left, rfl⟩

theorem persists_bind {reading : Reading α} {after : α → Reading β}
    (first : Persists host reading) (second : ∀ result, Persists host (after result)) :
    Persists host (reading >>= after) := by
  intro session
  rw [perform_bind]
  rcases first session with told | ⟨result, left, performed⟩
  · rw [← Prod.eta (reading.perform host session), told]
    exact .inl rfl
  · rw [performed]
    exact second result left

/-- Readings that have a result unless they are told to stop compose. -/
theorem composes_persists : Composes fun _ reading => Persists host reading :=
  ⟨persists_pure, persists_bind⟩

end Reading

namespace Deep

variable {σ : Type} {host : Host σ} {session left : Session σ} {progress next : Progress}

/-- A check of a manifest comes to a report, unless it is told to stop. -/
theorem persists_validate (host : Host σ) (manifest : Manifest) :
    Reading.Persists host (validate manifest) :=
  Reading.composes_persists.validate
    (fun _ _ => Reading.persists_unlessStopped _)
    (fun _ _ _ => Reading.persists_unlessStopped _) manifest

/-- The exchanges of the checks of some entries in turn, with the entries. -/
def traceAll (host : Host σ) (check : Progress → VersionEntry → Reading Progress) :
    Progress → List VersionEntry → Session σ → List (VersionEntry × List Exchange)
  | _, [], _ => []
  | progress, entry :: rest, session =>
    (entry, (check progress entry).exchanges host session) ::
      match (check progress entry).perform host session with
      | (.ok next, left) => traceAll host check next rest left
      | (.error _, _) => []

/-- The exchanges of a check of entries in turn are those of the single checks. -/
theorem exchanges_checkAll {check : Progress → VersionEntry → Reading Progress}
    (progress : Progress) (entries : List VersionEntry) (session : Session σ) :
    (checkAll check progress entries).exchanges host session =
      (traceAll host check progress entries session).flatMap (·.2) := by
  induction entries generalizing progress session with
  | nil => rfl
  | cons entry entries inductionHypothesis =>
    rw [checkAll, Reading.exchanges_bind, traceAll, List.flatMap_cons]
    congr 1
    cases (check progress entry).perform host session with
    | mk answer middle =>
      cases answer with
      | ok next => exact inductionHypothesis next middle
      | error error => rfl

/-- Each of some entries is checked from where the single checks before it have led. -/
theorem mem_traceAll {check : Progress → VersionEntry → Reading Progress}
    (related : Progress × Session σ → Progress × Session σ → Prop)
    (refl : ∀ point, related point point)
    (trans : ∀ {first second third}, related first second → related second third →
      related first third)
    {entries : List VersionEntry}
    (each : ∀ entry ∈ entries, ∀ {before after : Progress} {first last : Session σ},
      (check before entry).perform host first = (.ok after, last) →
      related (before, first) (after, last))
    {entry : VersionEntry} {exchanges : List Exchange}
    (present : (entry, exchanges) ∈ traceAll host check progress entries session) :
    entry ∈ entries ∧ ∃ before first, related (progress, session) (before, first) ∧
      exchanges = (check before entry).exchanges host first := by
  induction entries generalizing progress session with
  | nil => cases present
  | cons other entries inductionHypothesis =>
    rcases List.mem_cons.mp present with here | later
    · cases here
      exact ⟨List.mem_cons_self, progress, session, refl _, rfl⟩
    · cases checked : (check progress other).perform host session with
      | mk answer middle =>
        rw [checked] at later
        cases answer with
        | error error => cases later
        | ok next =>
          obtain ⟨member, before, first, reaches, same⟩ := inductionHypothesis
            (fun entry member => each entry (List.mem_cons_of_mem _ member)) later
          exact ⟨List.mem_cons_of_mem _ member, before, first,
            trans (each other List.mem_cons_self checked) reaches, same⟩

/-- The exchanges of a check of a manifest, entry by entry. -/
def trace (host : Host σ) (manifest : Manifest) (session : Session σ) :
    List (VersionEntry × List Exchange) :=
  traceAll host checkOs {} manifest.cros session ++
    match (checkAll checkOs {} manifest.cros).perform host session with
    | (.ok progress, left) => traceAll host checkFirmware progress manifest.firmware left
    | (.error _, _) => []

/-- The exchanges of a check of a manifest are those of its trace. -/
theorem exchanges_validate (host : Host σ) (manifest : Manifest) (session : Session σ) :
    (validate manifest).exchanges host session =
      (trace host manifest session).flatMap (·.2) := by
  rw [validate, Reading.exchanges_bind, exchanges_checkAll, trace, List.flatMap_append]
  congr 1
  cases (checkAll checkOs {} manifest.cros).perform host session with
  | mk answer left =>
    cases answer with
    | error error => rfl
    | ok progress =>
      dsimp only
      rw [Reading.exchanges_bind, exchanges_checkAll]
      cases (checkAll checkFirmware progress manifest.firmware).perform host left with
      | mk final last => cases final <;> exact List.append_nil _

end Deep

end StableFleet
