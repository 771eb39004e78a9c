import StableFleet.Proofs.Version.Order

/-!
# Comparing the texts of versions

Two texts are compared as operating-system versions by the numbers that they spell, one after
another. As a version has one text, two texts that compare as equal are the same text. So the
comparison is a total order of the texts that spell a version, and it fails for all others.
-/

namespace StableFleet

namespace OsVersion

/-- The numbers of a version, in the order in which they count. -/
def numbers (version : OsVersion) : List Nat :=
  [version.release.toNat, version.tip.toNat, version.branch.toNat, version.branchbranch.toNat]

/-- Words compare as the numbers that they hold. -/
theorem compare_words (left right : UInt64) :
    compare left right = compare left.toNat right.toNat := by
  simp only [compare, compareOfLessAndEq, UInt64.lt_iff_toNat_lt, UInt64.toNat_inj]

/-- Versions compare as their numbers do, of which the first that differ decide. -/
theorem compare_numbers (left right : OsVersion) :
    compare left right = compare left.numbers right.numbers := by
  have parts : compare left right =
      (compare left.release right.release).then ((compare left.tip right.tip).then
        ((compare left.branch right.branch).then
          (compare left.branchbranch right.branchbranch))) := rfl
  rw [parts]
  simp only [numbers, List.compare_cons_cons, List.compare_nil_nil, Ordering.then_eq, compare_words]

end OsVersion

namespace Version

/-- Of two texts the first is the same or less. -/
def NoGreater (comparison : String → String → Except Error Ordering) (left right : String) : Prop :=
  ∃ ordering, comparison left right = .ok ordering ∧ ordering.isLE = true

/-- A comparison is a total order of the texts that count as valid: it succeeds for these alone,
is reversed when they are exchanged, and tells any two of them apart. -/
structure TotallyOrders (valid : String → Prop)
    (comparison : String → String → Except Error Ordering) : Prop where
  succeeds : ∀ left right,
    (∃ ordering, comparison left right = .ok ordering) ↔ valid left ∧ valid right
  total : ∀ left right, valid left → valid right →
    NoGreater comparison left right ∨ NoGreater comparison right left
  reversed : ∀ left right ordering, comparison left right = .ok ordering →
    comparison right left = .ok ordering.swap
  transitive : ∀ first second third, NoGreater comparison first second →
    NoGreater comparison second third → NoGreater comparison first third
  equal_iff : ∀ left right, valid left → valid right →
    (comparison left right = .ok .eq ↔ left = right)

/-- Two texts compare in some way exactly when they are the texts of two versions that compare
in this way. -/
theorem compareOs_eq_ok_iff {left right : String} {ordering : Ordering} :
    compareOs left right = .ok ordering ↔ ∃ first second : OsVersion,
      left = first.text ∧ right = second.text ∧ compare first second = ordering := by
  constructor
  · intro compared
    rw [compareOs] at compared
    cases readFirst : readOs left with
    | error failure =>
      rw [readFirst] at compared
      cases compared
    | ok first =>
      cases readSecond : readOs right with
      | error failure =>
        rw [readFirst, readSecond] at compared
        cases compared
      | ok second =>
        rw [readFirst, readSecond] at compared
        exact ⟨first, second, readOs_eq_ok_iff.mp readFirst, readOs_eq_ok_iff.mp readSecond,
          Except.ok.inj compared⟩
  · rintro ⟨first, second, rfl, rfl, rfl⟩
    exact compareOs_text first second

/-- The texts of two versions are in order exactly when the versions are. -/
theorem noGreater_iff {left right : String} :
    NoGreater compareOs left right ↔ ∃ first second : OsVersion,
      left = first.text ∧ right = second.text ∧ (compare first second).isLE = true := by
  constructor
  · rintro ⟨ordering, compared, ordered⟩
    obtain ⟨first, second, isFirst, isSecond, rfl⟩ := compareOs_eq_ok_iff.mp compared
    exact ⟨first, second, isFirst, isSecond, ordered⟩
  · rintro ⟨first, second, rfl, rfl, ordered⟩
    exact ⟨_, compareOs_text first second, ordered⟩

/-- Texts of versions that are in order one after another are in order. The text in the middle
is that of one version only. -/
theorem noGreater_trans {first second third : String} (before : NoGreater compareOs first second)
    (after : NoGreater compareOs second third) : NoGreater compareOs first third := by
  obtain ⟨least, middle, rfl, rfl, ordered⟩ := noGreater_iff.mp before
  obtain ⟨middle', greatest, same, rfl, ordered'⟩ := noGreater_iff.mp after
  obtain rfl : middle = middle' := OsVersion.text_inj.mp same
  exact noGreater_iff.mpr ⟨least, greatest, rfl, rfl, Std.TransCmp.isLE_trans ordered ordered'⟩

/-- Two texts can be compared exactly when both spell a version. -/
theorem compareOs_succeeds_iff {left right : String} :
    (∃ ordering, compareOs left right = .ok ordering) ↔
      Accepts readOs left ∧ Accepts readOs right := by
  rw [accepts_readOs_iff, accepts_readOs_iff]
  constructor
  · rintro ⟨ordering, compared⟩
    obtain ⟨first, second, isFirst, isSecond, _⟩ := compareOs_eq_ok_iff.mp compared
    exact ⟨⟨first, isFirst⟩, ⟨second, isSecond⟩⟩
  · rintro ⟨⟨first, rfl⟩, ⟨second, rfl⟩⟩
    exact ⟨_, compareOs_text first second⟩

/-- Of two texts that spell a version, one is no greater than the other. -/
theorem noGreater_total {left right : String} (validLeft : Accepts readOs left)
    (validRight : Accepts readOs right) :
    NoGreater compareOs left right ∨ NoGreater compareOs right left := by
  obtain ⟨first, rfl⟩ := accepts_readOs_iff.mp validLeft
  obtain ⟨second, rfl⟩ := accepts_readOs_iff.mp validRight
  by_cases below : compare first second = .lt
  · exact .inl (noGreater_iff.mpr ⟨first, second, rfl, rfl, Ordering.isLE_of_eq_lt below⟩)
  · have above := Std.OrientedCmp.isLE_of_isGE (Ordering.isGE_iff_ne_lt.mpr below)
    exact .inr (noGreater_iff.mpr ⟨second, first, rfl, rfl, above⟩)

/-- Two texts compare the other way around when they are exchanged. -/
theorem compareOs_swap {left right : String} {ordering : Ordering}
    (compared : compareOs left right = .ok ordering) :
    compareOs right left = .ok ordering.swap := by
  obtain ⟨first, second, rfl, rfl, rfl⟩ := compareOs_eq_ok_iff.mp compared
  have exchanged : compare second first = (compare first second).swap := Std.OrientedCmp.eq_swap
  rw [compareOs_text, exchanged]

/-- Of the texts that spell a version, no two compare as equal. -/
theorem compareOs_eq_iff {left right : String} (validLeft : Accepts readOs left)
    (validRight : Accepts readOs right) : compareOs left right = .ok .eq ↔ left = right := by
  obtain ⟨first, rfl⟩ := accepts_readOs_iff.mp validLeft
  obtain ⟨second, rfl⟩ := accepts_readOs_iff.mp validRight
  rw [compareOs_text, Except.ok.injEq, OsVersion.compare_eq_iff, OsVersion.text_inj]

/-- Comparing texts as operating-system versions is a total order of the texts that spell one,
and there it is the order of their numbers, of which the first that differ decide. -/
theorem compareOs_totallyOrders :
    TotallyOrders (Accepts readOs) compareOs ∧
      ∀ left right first second, readOs left = .ok first → readOs right = .ok second →
        compareOs left right = .ok (compare first.numbers second.numbers) := by
  constructor
  · exact {
      succeeds := fun _ _ => compareOs_succeeds_iff
      total := fun _ _ => noGreater_total
      reversed := fun _ _ _ => compareOs_swap
      transitive := fun _ _ _ => noGreater_trans
      equal_iff := fun _ _ => compareOs_eq_iff }
  · intro left right first second readFirst readSecond
    rw [readOs_eq_ok_iff.mp readFirst, readOs_eq_ok_iff.mp readSecond, compareOs_text,
      OsVersion.compare_numbers]

/-- Versions are ordered by their numbers, where the texts alone would be ordered otherwise. -/
theorem compareOs_totallyOrders_tenth :
    readOs "R9-1.0.0" = .ok ⟨9, 1, 0, 0⟩ ∧ readOs "R10-1.0.0" = .ok ⟨10, 1, 0, 0⟩ ∧
      compareOs "R9-1.0.0" "R10-1.0.0" = .ok .lt ∧ "R10-1.0.0" < "R9-1.0.0" := by
  have ninth : readOs "R9-1.0.0" = .ok ⟨9, 1, 0, 0⟩ := readOs_eq_ok_iff.mpr (by decide +kernel)
  have tenth : readOs "R10-1.0.0" = .ok ⟨10, 1, 0, 0⟩ := readOs_eq_ok_iff.mpr (by decide +kernel)
  have ordered := compareOs_totallyOrders.2 _ _ _ _ ninth tenth
  exact ⟨ninth, tenth, ordered.trans rfl, by decide⟩

end Version

end StableFleet
