import StableFleet.Proofs.Version.Codec

/-!
# The order of versions

Operating-system versions are compared part by part, so their order is total and two
versions that compare as equal are the same. Some versions therefore have one greatest
among them, in whatever order they are gone through.
-/

namespace StableFleet

namespace OsVersion

/-- The parts are compared one after another, each in the order of words. -/
instance : Std.TransOrd OsVersion :=
  inferInstanceAs (Std.TransCmp (compareLex (compareOn release) (compareLex (compareOn tip)
    (compareLex (compareOn branch) (compareOn branchbranch)))))

instance : Std.LawfulEqOrd OsVersion := ⟨compare_eq_iff.mp⟩

/-- A version is one of some versions, and none of them is greater. -/
def Greatest (versions : List OsVersion) (version : OsVersion) : Prop :=
  version ∈ versions ∧ ∀ other ∈ versions, (compare other version).isLE = true

/-- There is at most one greatest version. -/
theorem Greatest.unique {versions : List OsVersion} {first second : OsVersion}
    (greatest : Greatest versions first) (other : Greatest versions second) : first = second :=
  compare_eq_iff.mp
    (Std.OrientedCmp.isLE_antisymm (other.2 first greatest.1) (greatest.2 second other.1))

/-- No greater version is among some versions exactly when every one of them is the
version itself or less. -/
theorem isLE_iff {version other : OsVersion} :
    (compare other version).isLE = true ↔ other = version ∨ compare other version = .lt := by
  rw [Ordering.isLE_iff_eq_lt_or_eq_eq, compare_eq_iff]
  exact or_comm

/-- The latest of two versions is one of them. -/
theorem latest_eq (left right : OsVersion) :
    latest left right = left ∨ latest left right = right := by
  unfold latest
  split
  · exact .inr rfl
  · exact .inl rfl

/-- Neither of two versions is greater than the latest of them. -/
theorem isLE_latest (left right : OsVersion) :
    (compare left (latest left right)).isLE = true ∧
      (compare right (latest left right)).isLE = true := by
  unfold latest
  split
  · next below => exact ⟨by rw [below]; rfl, Std.ReflCmp.isLE_rfl⟩
  · next other =>
      exact ⟨Std.ReflCmp.isLE_rfl, Std.OrientedCmp.isLE_of_isGE (Ordering.isGE_iff_ne_lt.mpr other)⟩

/-- The greatest of some versions, if there are any. -/
def greatest? : List OsVersion → Option OsVersion
  | [] => none
  | version :: versions => some (versions.foldl latest version)

/-- Going through more versions from the latest of two leaves the greatest of all. -/
theorem Greatest.cons {first second version : OsVersion} {rest : List OsVersion}
    (greatest : Greatest (latest first second :: rest) version) :
    Greatest (first :: second :: rest) version := by
  obtain ⟨member, bound⟩ := greatest
  have ofLatest := bound _ List.mem_cons_self
  obtain ⟨ofFirst, ofSecond⟩ := isLE_latest first second
  refine ⟨?_, ?_⟩
  · rcases List.mem_cons.mp member with rfl | later
    · rcases latest_eq first second with left | right
      · rw [left]
        exact List.mem_cons_self
      · rw [right]
        exact List.mem_cons_of_mem _ List.mem_cons_self
    · exact List.mem_cons_of_mem _ (List.mem_cons_of_mem _ later)
  · intro other present
    rcases List.mem_cons.mp present with rfl | present
    · exact Std.TransCmp.isLE_trans ofFirst ofLatest
    rcases List.mem_cons.mp present with rfl | later
    · exact Std.TransCmp.isLE_trans ofSecond ofLatest
    · exact bound other (List.mem_cons_of_mem _ later)

/-- Taking the latest of two versions again and again leaves the greatest of all. -/
theorem foldl_latest (first : OsVersion) (rest : List OsVersion) :
    Greatest (first :: rest) (rest.foldl latest first) := by
  induction rest generalizing first with
  | nil => simp [Greatest]
  | cons second rest inductionHypothesis => exact (inductionHypothesis (latest first second)).cons

/-- What is found to be the greatest of some versions is the greatest of them. -/
theorem greatest?_eq_some_iff {versions : List OsVersion} {version : OsVersion} :
    greatest? versions = some version ↔ Greatest versions version := by
  cases versions with
  | nil => simp [greatest?, Greatest]
  | cons first rest =>
    have greatest := foldl_latest first rest
    refine ⟨fun found => ?_, fun other => congrArg some (greatest.unique other)⟩
    cases found
    exact greatest

/-- There is no greatest of versions only if there are none. -/
theorem greatest?_eq_none_iff {versions : List OsVersion} :
    greatest? versions = none ↔ versions = [] := by
  cases versions <;> simp [greatest?]

/-- Versions with the same text are the same version. -/
theorem text_inj {left right : OsVersion} : left.text = right.text ↔ left = right := by
  refine ⟨fun same => ?_, congrArg _⟩
  have read : parse? left.text = some left := parse?_eq_some_iff.mpr rfl
  rw [parse?_eq_some_iff.mpr same] at read
  exact (Option.some.inj read).symm

end OsVersion

namespace Version

/-- An operating-system version is read from its own text alone. -/
theorem readOs_eq_ok_iff {text : String} {version : OsVersion} :
    readOs text = .ok version ↔ text = version.text := by
  rw [readOs, orMalformed_eq_ok_iff, OsVersion.parse?_eq_some_iff]

/-- The texts that are accepted as operating-system versions are the texts of versions. -/
theorem accepts_readOs_iff {text : String} :
    Accepts readOs text ↔ ∃ version : OsVersion, text = version.text :=
  exists_congr fun _ => readOs_eq_ok_iff

/-- The texts of two versions compare as the versions do. -/
theorem compareOs_text (left right : OsVersion) :
    compareOs left.text right.text = .ok (compare left right) := by
  rw [compareOs, readOs_eq_ok_iff.mpr rfl, readOs_eq_ok_iff.mpr rfl]
  rfl

end Version

end StableFleet
