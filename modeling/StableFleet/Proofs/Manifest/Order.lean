import StableFleet.Manifest.Order
import StableFleet.Text.Cut

/-!
# The canonical order is an order

Ranks are compared by their first parts, then by their second and then by their
third. So one rank or the other comes first, and entries that have been put in
order stay where they are when they are put in order again.

The order does not tell entries of the same rank apart: it leaves them as they
follow each other. So two lists of entries have the same order exactly when the
entries of each name and version follow each other in the same way in both, and
this need not be so when one list is a rearrangement of the other. It is so when
no build target has the mark that joins it to a model, as names then tell keys
apart.
-/

namespace StableFleet

namespace EntryKey

/-- The name of a key without a model is its build target; the name of any other key
is its build target, the mark, and its model. -/
theorem joined_cases {mark : String} {char : Char} (single : mark.toList = [char])
    (key : EntryKey) :
    (key.model = "" ∧ key.joined mark = key.buildTarget) ∨
      (key.joined mark).toList = key.buildTarget.toList ++ char :: key.model.toList := by
  obtain ⟨buildTarget, model⟩ := key
  by_cases missing : model = ""
  · subst missing
    exact .inl ⟨rfl, by simp [joined]⟩
  · refine .inr ?_
    simp [joined, missing, single]

/-- Keys whose build targets do not have the mark are told apart by their names: the
mark, if there is one, ends the build target. -/
theorem eq_of_joined_eq {mark : String} {char : Char} (single : mark.toList = [char])
    {left right : EntryKey} (plain : char ∉ left.buildTarget.toList)
    (plain' : char ∉ right.buildTarget.toList) (same : left.joined mark = right.joined mark) :
    left = right := by
  obtain ⟨board, model⟩ := left
  obtain ⟨board', model'⟩ := right
  rcases joined_cases single ⟨board, model⟩ with ⟨missing, alone⟩ | joined
  · rcases joined_cases single ⟨board', model'⟩ with ⟨missing', alone'⟩ | joined'
    · have boards : board = board' := alone.symm.trans (same.trans alone')
      exact congr (congrArg EntryKey.mk boards) (missing.trans missing'.symm)
    · rw [← same, alone] at joined'
      exact absurd (by simp [joined']) plain
  · rcases joined_cases single ⟨board', model'⟩ with ⟨_, alone'⟩ | joined'
    · rw [same, alone'] at joined
      exact absurd (by simp [joined]) plain'
    · have cut := Text.cutAt?_eq_some_iff.mpr ⟨joined, plain⟩
      have cut' := Text.cutAt?_eq_some_iff.mpr ⟨joined', plain'⟩
      rw [same, cut'] at cut
      obtain ⟨boards, models⟩ := Prod.mk.inj (Option.some.inj cut)
      exact congr (congrArg EntryKey.mk (String.ext boards.symm)) (String.ext models.symm)

end EntryKey

namespace VersionEntry

/-- Of entries whose keys are distinct, those with the same key are the same. -/
theorem eq_of_key_eq {entries : List VersionEntry} (distinct : (entries.map (·.key)).Nodup)
    {left right : VersionEntry} (present : left ∈ entries) (present' : right ∈ entries)
    (same : left.key = right.key) : left = right := by
  obtain ⟨place, inside, rfl⟩ := List.getElem_of_mem present
  obtain ⟨place', inside', rfl⟩ := List.getElem_of_mem present'
  have mapped {place : Nat} (inside : place < entries.length) :
      ∃ bound : place < (entries.map (·.key)).length,
        (entries.map (·.key))[place] = entries[place].key :=
    ⟨by simpa using inside, List.getElem_map _⟩
  obtain ⟨bound, here⟩ := mapped inside
  obtain ⟨bound', there⟩ := mapped inside'
  have places : place = place' := by
    apply (List.getElem_inj distinct).mp
    rw [here, there, same]
  subst places
  rfl

/-- Ranks are compared part by part. -/
theorem rankLe_iff {left right : String × String × String} :
    rankLe left right = true ↔
      left.1 < right.1 ∨ (left.1 = right.1 ∧
        (left.2.1 < right.2.1 ∨ (left.2.1 = right.2.1 ∧ left.2.2 ≤ right.2.2))) := by
  simp [rankLe]

/-- An entry comes no later than another: its name is smaller when capitals are made small; or
these are the same and the name itself is smaller; or the names are the same and the version is
not greater. -/
def NoLater (left right : VersionEntry) : Prop :=
  Text.LetterCase.lower left.key.composite < Text.LetterCase.lower right.key.composite ∨
    (Text.LetterCase.lower left.key.composite = Text.LetterCase.lower right.key.composite ∧
      (left.key.composite < right.key.composite ∨
        (left.key.composite = right.key.composite ∧ left.version ≤ right.version)))

/-- An entry may stand before those that it comes no later than. -/
theorem mayPrecede_iff {left right : VersionEntry} :
    left.mayPrecede right = true ↔ left.NoLater right := rankLe_iff

/-- Of two texts that differ one is smaller. -/
theorem lt_or_eq_or_gt (left right : String) : left < right ∨ left = right ∨ right < left := by
  by_cases smaller : left < right
  · exact .inl smaller
  · by_cases greater : right < left
    · exact .inr (.inr greater)
    · exact .inr (.inl (String.le_antisymm greater smaller))

section Parts

variable {first second third : String} {P Q R : Prop}

/-- A comparison by a first part and then by the rest is transitive if that of the rest
is. -/
theorem byParts_trans (rest : P → Q → R) (before : first < second ∨ first = second ∧ P)
    (after : second < third ∨ second = third ∧ Q) : first < third ∨ first = third ∧ R := by
  rcases before with less | ⟨rfl, before⟩
  · rcases after with more | ⟨rfl, _⟩
    · exact .inl (String.lt_trans less more)
    · exact .inl less
  · rcases after with more | ⟨rfl, after⟩
    · exact .inl more
    · exact .inr ⟨rfl, rest before after⟩

/-- A comparison by a first part and then by the rest is total if that of the rest is. -/
theorem byParts_total (rest : P ∨ Q) :
    (first < second ∨ first = second ∧ P) ∨ (second < first ∨ second = first ∧ Q) := by
  rcases lt_or_eq_or_gt first second with less | same | more
  · exact .inl (.inl less)
  · rcases rest with before | after
    · exact .inl (.inr ⟨same, before⟩)
    · exact .inr (.inr ⟨same.symm, after⟩)
  · exact .inr (.inl more)

/-- Where neither comes later, the first parts are the same, and the rest is compared
both ways. -/
theorem byParts_antisymm (before : first < second ∨ first = second ∧ P)
    (after : second < first ∨ second = first ∧ Q) : first = second ∧ P ∧ Q := by
  rcases before with less | ⟨rfl, before⟩
  · rcases after with more | ⟨rfl, _⟩
    · exact absurd more (String.lt_asymm less)
    · exact absurd less (String.lt_irrefl _)
  · rcases after with more | ⟨_, after⟩
    · exact absurd more (String.lt_irrefl _)
    · exact ⟨rfl, before, after⟩

end Parts

/-- What comes no later than something comes no later than what follows it. -/
theorem rankLe_trans {first second third : String × String × String}
    (before : rankLe first second = true) (after : rankLe second third = true) :
    rankLe first third = true := by
  rw [rankLe_iff] at before after ⊢
  exact byParts_trans (byParts_trans String.le_trans) before after

/-- Of two ranks one comes no later than the other. -/
theorem rankLe_total (left right : String × String × String) :
    rankLe left right = true ∨ rankLe right left = true := by
  simp only [rankLe_iff]
  exact byParts_total (byParts_total (String.le_total left.2.2 right.2.2))

/-- Ranks of which neither comes later than the other are the same. -/
theorem rankLe_antisymm {left right : String × String × String}
    (before : rankLe left right = true) (after : rankLe right left = true) : left = right := by
  rw [rankLe_iff] at before after
  obtain ⟨lowered, before, after⟩ := byParts_antisymm before after
  obtain ⟨name, before, after⟩ := byParts_antisymm before after
  exact Prod.ext lowered (Prod.ext name (String.le_antisymm before after))

/-- Entries of the same rank have the same name and the same version. -/
theorem rank_eq_iff {left right : VersionEntry} :
    left.rank = right.rank ↔
      left.key.composite = right.key.composite ∧ left.version = right.version := by
  constructor
  · intro same
    exact ⟨congrArg (·.2.1) same, congrArg (·.2.2) same⟩
  · rintro ⟨names, versions⟩
    rw [rank, rank, names, versions]

theorem mayPrecede_trans (first second third : VersionEntry)
    (before : first.mayPrecede second = true) (after : second.mayPrecede third = true) :
    first.mayPrecede third = true :=
  rankLe_trans before after

theorem mayPrecede_total (left right : VersionEntry) :
    (left.mayPrecede right || right.mayPrecede left) = true := by
  rw [Bool.or_eq_true]
  exact rankLe_total left.rank right.rank

theorem mayPrecede_of_rank_eq {left right : VersionEntry} (same : left.rank = right.rank) :
    left.mayPrecede right = true := by
  rw [mayPrecede, same]
  exact (rankLe_total right.rank right.rank).elim id id

end VersionEntry

namespace Manifest

open VersionEntry

/-- Entries that have been put in order are in order. -/
theorem sortEntries_ordered (entries : List VersionEntry) :
    (sortEntries entries).Pairwise fun left right => left.mayPrecede right = true :=
  List.pairwise_mergeSort mayPrecede_trans mayPrecede_total entries

/-- Putting entries in order a second time changes nothing. -/
theorem sortEntries_sortEntries (entries : List VersionEntry) :
    sortEntries (sortEntries entries) = sortEntries entries :=
  List.mergeSort_of_pairwise (sortEntries_ordered entries)

/-- Putting a manifest in order a second time changes nothing. -/
theorem sort_sort (manifest : Manifest) : manifest.sort.sort = manifest.sort := by
  simp only [sort, mapSections, sortEntries_sortEntries]

/-- The entries with a name and a version, as they follow each other. -/
def namesakes (name version : String) (entries : List VersionEntry) : List VersionEntry :=
  entries.filter fun entry => entry.key.composite = name ∧ entry.version = version

theorem mem_namesakes {name version : String} {entries : List VersionEntry} {entry : VersionEntry} :
    entry ∈ namesakes name version entries ↔
      entry ∈ entries ∧ entry.key.composite = name ∧ entry.version = version := by
  rw [namesakes, List.mem_filter, decide_eq_true_eq]

/-- Putting entries in order leaves those with the same name and version as they
follow each other. -/
theorem namesakes_sortEntries (name version : String) (entries : List VersionEntry) :
    namesakes name version (sortEntries entries) = namesakes name version entries := by
  have ordered : (namesakes name version entries).Pairwise
      fun left right => left.mayPrecede right = true := by
    refine List.pairwise_filter.mpr (List.pairwise_of_forall fun left right first second => ?_)
    rw [decide_eq_true_eq] at first second
    exact mayPrecede_of_rank_eq (rank_eq_iff.mpr
      ⟨first.1.trans second.1.symm, first.2.trans second.2.symm⟩)
  have within := List.sublist_mergeSort mayPrecede_trans mayPrecede_total ordered
    List.filter_sublist
  have kept := within.filter fun entry => entry.key.composite = name ∧ entry.version = version
  rw [namesakes, List.filter_filter] at kept
  simp only [Bool.and_self] at kept
  exact (kept.eq_of_length ((sortEntries_perm entries).filter _).length_eq.symm).symm

/-- Lists that have the same namesakes have the same entries. -/
theorem mem_iff_of_namesakes {left right : List VersionEntry}
    (same : ∀ name version, namesakes name version left = namesakes name version right)
    {entry : VersionEntry} : entry ∈ left ↔ entry ∈ right := by
  have member (entries : List VersionEntry) :
      entry ∈ namesakes entry.key.composite entry.version entries ↔ entry ∈ entries := by
    rw [mem_namesakes]
    exact and_iff_left ⟨rfl, rfl⟩
  rw [← member left, same, member right]

/-- Entries in order are known from the namesakes among them. The first entries have
the same rank, since each of them occurs in the other list; as the first of its
namesakes in both lists, they are the same. -/
theorem eq_of_namesakes {left right : List VersionEntry}
    (ordered : left.Pairwise fun left right => left.mayPrecede right = true)
    (ordered' : right.Pairwise fun left right => left.mayPrecede right = true)
    (same : ∀ name version, namesakes name version left = namesakes name version right) :
    left = right := by
  induction left generalizing right with
  | nil =>
    refine (List.eq_nil_iff_forall_not_mem.mpr fun entry present => ?_).symm
    exact List.not_mem_nil ((mem_iff_of_namesakes same).mpr present)
  | cons first others inductionHypothesis =>
    cases right with
    | nil => exact absurd ((mem_iff_of_namesakes same).mp List.mem_cons_self) List.not_mem_nil
    | cons first' others' =>
      have before : first.mayPrecede first' = true := by
        rcases List.mem_cons.mp ((mem_iff_of_namesakes same).mpr List.mem_cons_self) with rfl | later
        · exact mayPrecede_of_rank_eq rfl
        · exact List.rel_of_pairwise_cons ordered later
      have after : first'.mayPrecede first = true := by
        rcases List.mem_cons.mp ((mem_iff_of_namesakes same).mp List.mem_cons_self) with rfl | later
        · exact mayPrecede_of_rank_eq rfl
        · exact List.rel_of_pairwise_cons ordered' later
      obtain ⟨names, versions⟩ := rank_eq_iff.mp (rankLe_antisymm before after)
      have heads := same first.key.composite first.version
      simp only [namesakes, List.filter_cons, names, versions, and_self, decide_true,
        if_true] at heads
      obtain ⟨rfl, _⟩ := List.cons.inj heads
      have rest (name version : String) :
          namesakes name version others = namesakes name version others' := by
        have whole := same name version
        simp only [namesakes, List.filter_cons] at whole
        split at whole
        · exact (List.cons.inj whole).2
        · exact whole
      rw [inductionHypothesis ordered.of_cons ordered'.of_cons rest]

/-- Two lists of entries have the same order exactly when they have the same
namesakes. -/
theorem sortEntries_eq_iff {left right : List VersionEntry} :
    sortEntries left = sortEntries right ↔
      ∀ name version, namesakes name version left = namesakes name version right := by
  constructor
  · intro same name version
    rw [← namesakes_sortEntries, same, namesakes_sortEntries]
  · intro same
    refine eq_of_namesakes (sortEntries_ordered left) (sortEntries_ordered right) ?_
    intro name version
    rw [namesakes_sortEntries, namesakes_sortEntries, same]

/-- Some of the entries, in order, are some of the entries in order. -/
theorem filter_sortEntries (keep : VersionEntry → Bool) (entries : List VersionEntry) :
    (sortEntries entries).filter keep = sortEntries (entries.filter keep) := by
  apply eq_of_namesakes ((sortEntries_ordered entries).filter keep) (sortEntries_ordered _)
  intro name version
  have swap (entries : List VersionEntry) :
      namesakes name version (entries.filter keep) =
        (namesakes name version entries).filter keep := by
    rw [namesakes, namesakes, List.filter_filter, List.filter_filter]
    simp only [Bool.and_comm]
  rw [swap, namesakes_sortEntries, namesakes_sortEntries, swap]

/-- Rearranged entries have the same namesakes when names tell their keys apart:
namesakes then are copies of one entry. -/
theorem namesakes_eq_of_perm {left right : List VersionEntry} (permuted : left.Perm right)
    (plain : ∀ entry ∈ left, ':' ∉ entry.key.buildTarget.toList) (name version : String) :
    namesakes name version left = namesakes name version right := by
  have anyhow (entries : List VersionEntry) : entries.Pairwise fun _ _ => True :=
    List.pairwise_of_forall fun _ _ => trivial
  refine List.Perm.eq_of_pairwise ?_ (anyhow _) (anyhow _) (permuted.filter _)
  intro first second present present' _ _
  obtain ⟨member, named, versioned⟩ := mem_namesakes.mp present
  obtain ⟨member', named', versioned'⟩ := mem_namesakes.mp present'
  have keys := EntryKey.eq_of_joined_eq rfl (plain first member)
    (plain second (permuted.mem_iff.mpr member')) (named.trans named'.symm)
  exact congr (congrArg VersionEntry.mk keys) (versioned.trans versioned'.symm)

end Manifest

end StableFleet
