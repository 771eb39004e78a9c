import StableFleet.Config.Basic

/-!
# What allow-lists let pass

In a configuration that is accepted, each entry of a list of devices has one semicolon, with
a board before it and a model behind it. So an entry is the name of a device exactly when
these are the build target and the model of the device: a build target or a model that has a
semicolon itself is named by no entry.

An anomaly is left out by one of several lists exactly when it is left out by all of them
together. So leaving out the same anomalies twice is leaving them out once, and what is left
by longer lists is part of what is left by shorter ones.
-/

namespace StableFleet

namespace TextSet

/-- The texts of two sets. -/
def union (left right : TextSet) : TextSet := ofList (left.toList ++ right.toList)

theorem mem_union {left right : TextSet} {text : String} :
    text ∈ left.union right ↔ text ∈ left ∨ text ∈ right :=
  mem_ofList.trans List.mem_append

theorem contains_union (left right : TextSet) (text : String) :
    (left.union right).contains text = (left.contains text || right.contains text) := by
  rw [Bool.eq_iff_iff, Bool.or_eq_true, contains_iff, contains_iff, contains_iff, mem_union]

/-- Sets with the same texts are the same. -/
theorem eq_of_mem {left right : TextSet} (same : ∀ text, text ∈ left ↔ text ∈ right) :
    left = right := by
  obtain ⟨texts, ascending⟩ := left
  obtain ⟨others, ascending'⟩ := right
  congr 1
  exact eq_of_ascending ascending ascending' same

end TextSet

namespace AllowLists

/-- The only semicolon of an entry stands between the build target and the model of a
device. -/
structure Names (entry : String) (device : BoardModel) : Prop where
  joined : entry.toList = device.buildTarget.toList ++ ';' :: device.model.toList
  board : ';' ∉ device.buildTarget.toList
  model : ';' ∉ device.model.toList

instance (entry : String) (device : BoardModel) : Decidable (Names entry device) :=
  decidable_of_iff
    (entry.toList = device.buildTarget.toList ++ ';' :: device.model.toList ∧
      ';' ∉ device.buildTarget.toList ∧ ';' ∉ device.model.toList)
    ⟨fun parts => ⟨parts.1, parts.2.1, parts.2.2⟩, fun names =>
      ⟨names.joined, names.board, names.model⟩⟩

/-- An entry of a list names a device. -/
abbrev Listed (entries : TextSet) (device : BoardModel) : Prop :=
  ∃ entry ∈ entries.toList, Names entry device

/-- An entry that is written as it should be has one semicolon. -/
theorem isDevice_parts {entry : String} (device : isDevice entry = true) :
    ∃ board model, entry.toList = board ++ ';' :: model ∧ ';' ∉ board ∧ ';' ∉ model := by
  unfold isDevice at device
  split at device
  · next board model cut =>
    obtain ⟨joined, first⟩ := Text.cutAt?_eq_some_iff.mp cut
    simp only [Bool.and_eq_true, Bool.not_eq_true', List.contains_eq_mem, decide_eq_false_iff_not]
      at device
    exact ⟨board, model, joined, first, device.2⟩
  · cases device

theorem toList_allowKey (device : BoardModel) :
    device.allowKey.toList = device.buildTarget.toList ++ ';' :: device.model.toList := by
  simp [BoardModel.allowKey]

/-- In a list of entries that are written as they should be, the name of a device stands
exactly when an entry names the device. -/
theorem contains_allowKey_iff {entries : TextSet}
    (written : ∀ entry ∈ entries.toList, isDevice entry = true) (device : BoardModel) :
    entries.contains device.allowKey = true ↔ Listed entries device := by
  rw [TextSet.contains_iff]
  constructor
  · intro present
    obtain ⟨board, model, joined, first, last⟩ := isDevice_parts (written _ present)
    -- The name has one semicolon, which is the one that joins its parts.
    have counted := congrArg (List.count ';') joined
    rw [toList_allowKey, List.count_append, List.count_append, List.count_cons_self,
      List.count_cons_self, List.count_eq_zero.mpr first, List.count_eq_zero.mpr last] at counted
    exact ⟨device.allowKey, present, toList_allowKey device,
      List.count_eq_zero.mp (by omega), List.count_eq_zero.mp (by omega)⟩
  · rintro ⟨entry, present, names⟩
    have same : entry = device.allowKey :=
      String.ext (names.joined.trans (toList_allowKey device).symm)
    exact same ▸ present

/-- What either of two allow-lists lets pass. -/
def union (first second : AllowLists) : AllowLists where
  missingBoards := first.missingBoards.union second.missingBoards
  failedLookups := first.failedLookups.union second.failedLookups
  mismatches := first.mismatches.union second.mismatches

/-- What one allow-list lets pass, another one does too. -/
structure Within (fewer more : AllowLists) : Prop where
  missingBoards : ∀ board ∈ fewer.missingBoards, board ∈ more.missingBoards
  failedLookups : ∀ entry ∈ fewer.failedLookups, entry ∈ more.failedLookups
  mismatches : ∀ entry ∈ fewer.mismatches, entry ∈ more.mismatches

theorem union_of_within {fewer more : AllowLists} (within : fewer.Within more) :
    fewer.union more = more := by
  have all {left right : TextSet} (subset : ∀ text ∈ left, text ∈ right) :
      left.union right = right :=
    TextSet.eq_of_mem fun text => TextSet.mem_union.trans (or_iff_right_of_imp (subset text))
  rw [union, all within.missingBoards, all within.failedLookups, all within.mismatches]

end AllowLists

namespace Config

/-- The entries of a list are written as they should be when no fault is found in it. -/
theorem isDevice_of_devicesFault? {list : String} {entries : TextSet}
    (faultless : devicesFault? list entries = none) :
    ∀ entry ∈ entries.toList, AllowLists.isDevice entry = true := by
  intro entry present
  have found := List.find?_eq_none.mp (Option.map_eq_none_iff.mp faultless) entry present
  simpa using found

/-- In a configuration that is accepted, the entries of both lists of devices are written as
they should be. -/
theorem isDevice_of_accepted {config : Config} (accepted : config.validate = .ok ()) :
    (∀ entry ∈ config.allowLists.failedLookups.toList, AllowLists.isDevice entry = true) ∧
      ∀ entry ∈ config.allowLists.mismatches.toList, AllowLists.isDevice entry = true := by
  unfold validate at accepted
  split at accepted
  · next faultless =>
    obtain ⟨_, devices⟩ := Option.or_eq_none_iff.mp faultless
    obtain ⟨lookups, mismatches⟩ := Option.or_eq_none_iff.mp devices
    exact ⟨isDevice_of_devicesFault? lookups, isDevice_of_devicesFault? mismatches⟩
  · cases accepted

end Config

namespace Report

open AllowLists (Listed)

/-- The anomalies of a report that allow-lists do not name, in the order of the report. -/
structure LeftBy (allowed : AllowLists) (report rest : Report) : Prop where
  nonLowercase : rest.nonLowercase = report.nonLowercase
  missingBoards : rest.missingBoards =
    report.missingBoards.filter fun board => board ∉ allowed.missingBoards.toList
  failedLookups : rest.failedLookups =
    report.failedLookups.filter fun device => ¬ Listed allowed.failedLookups device
  mismatches : rest.mismatches =
    report.mismatches.filter fun mismatch => ¬ Listed allowed.mismatches mismatch.device

/-- The anomalies of one report are among those of another, in the same order. -/
structure PartOf (part whole : Report) : Prop where
  nonLowercase : part.nonLowercase.Sublist whole.nonLowercase
  missingBoards : part.missingBoards.Sublist whole.missingBoards
  failedLookups : part.failedLookups.Sublist whole.failedLookups
  mismatches : part.mismatches.Sublist whole.mismatches

theorem without_partOf (report : Report) (allowed : AllowLists) :
    (report.without allowed).PartOf report :=
  ⟨.refl _, List.filter_sublist, List.filter_sublist, List.filter_sublist⟩

/-- Leaving out what is named by lists that are written as they should be. -/
theorem leftBy_without {allowed : AllowLists}
    (lookups : ∀ entry ∈ allowed.failedLookups.toList, AllowLists.isDevice entry = true)
    (mismatches : ∀ entry ∈ allowed.mismatches.toList, AllowLists.isDevice entry = true)
    (report : Report) : LeftBy allowed report (report.without allowed) := by
  have named {entries : TextSet}
      (written : ∀ entry ∈ entries.toList, AllowLists.isDevice entry = true)
      (device : BoardModel) :
      (!entries.contains device.allowKey) = decide (¬ Listed entries device) := by
    rw [decide_not, Bool.not_inj_iff, Bool.eq_iff_iff, decide_eq_true_eq]
    exact AllowLists.contains_allowKey_iff written device
  refine ⟨rfl, ?_, ?_, ?_⟩
  · refine List.filter_congr fun board _ => ?_
    rw [TextSet.contains, List.contains_eq_mem, decide_not]
    rfl
  · exact List.filter_congr fun device _ => named lookups device
  · exact List.filter_congr fun mismatch _ => named mismatches mismatch.device

/-- Leaving out what one list names and then what another one names is leaving out what
either names. -/
theorem without_without (report : Report) (first second : AllowLists) :
    (report.without first).without second = report.without (first.union second) := by
  simp only [without, AllowLists.union, List.filter_filter, TextSet.contains_union, Bool.not_or,
    Bool.and_comm]

/-- With a configuration that is accepted, the anomalies that are let pass are those that an
entry of the list for them names: a board by itself, and a device by its build target before
the only semicolon and its model behind it. The others stay in order, and names that are not
in small letters always do. There is one failure for each anomaly, before and after.

Leaving out what two lists let pass in turn is leaving out what either does, once is enough,
and with more entries no anomaly is left that was not left before. -/
theorem without_exact {config : Config} (accepted : config.validate = .ok ()) (report : Report) :
    LeftBy config.allowLists report (report.without config.allowLists) ∧
    report.errors.length = report.count ∧
    (report.without config.allowLists).errors.length =
      (report.without config.allowLists).count ∧
    (∀ first second : AllowLists,
      (report.without first).without second = report.without (first.union second)) ∧
    (∀ allowed : AllowLists, (report.without allowed).without allowed = report.without allowed) ∧
    ∀ fewer more : AllowLists, fewer.Within more →
      (report.without more).PartOf (report.without fewer) ∧
        (report.without more).count ≤ (report.without fewer).count := by
  have absorbed {fewer more : AllowLists} (within : fewer.Within more) :
      (report.without fewer).without more = report.without more := by
    rw [without_without, AllowLists.union_of_within within]
  obtain ⟨lookups, mismatches⟩ := Config.isDevice_of_accepted accepted
  refine ⟨leftBy_without lookups mismatches report, length_errors _, length_errors _,
    without_without report, fun allowed => ?_, fun fewer more within => ?_⟩
  · exact absorbed ⟨fun _ => id, fun _ => id, fun _ => id⟩
  · rw [← absorbed within]
    exact ⟨without_partOf _ more, count_without_le _ more⟩

/-- Lists with one entry each. -/
def oneOfEach : Config :=
  { allowLists :=
      { missingBoards := .ofList ["labstation"]
        failedLookups := .ofList ["coral;babytiger"]
        mismatches := .ofList ["eve;eve"] } }

/-- Anomalies that these lists name, and some that have the same text or stand in another
list. -/
def lookalikes : Report where
  nonLowercase := ["labstation"]
  missingBoards := ["labstation", "nami", "eve;eve"]
  failedLookups := [⟨"coral;babytiger", ""⟩, ⟨"coral", "babytiger"⟩, ⟨"eve", "eve"⟩]
  mismatches := [⟨⟨"eve", "eve"⟩, "a", "b"⟩, ⟨⟨"eve;eve", "eve"⟩, "a", "b"⟩]

theorem without_exact_oneOfEach :
    oneOfEach.validate = .ok () ∧
      LeftBy oneOfEach.allowLists lookalikes (lookalikes.without oneOfEach.allowLists) ∧
      lookalikes.without oneOfEach.allowLists =
        { nonLowercase := ["labstation"]
          missingBoards := ["nami", "eve;eve"]
          failedLookups := [⟨"coral;babytiger", ""⟩, ⟨"eve", "eve"⟩]
          mismatches := [⟨⟨"eve;eve", "eve"⟩, "a", "b"⟩] } ∧
      (lookalikes.without oneOfEach.allowLists).errors.length = 6 := by
  have faultless : oneOfEach.fault? = none := by decide +kernel
  have accepted : oneOfEach.validate = .ok () := by rw [Config.validate, faultless]
  obtain ⟨left, _, errors, _⟩ := without_exact accepted lookalikes
  exact ⟨accepted, left, by decide +kernel, errors.trans (by decide +kernel)⟩

end Report

end StableFleet
