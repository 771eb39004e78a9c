import StableFleet.Proofs.Json.Members
import StableFleet.Proofs.Json.Text

/-!
# Objects of canonical values

Whatever is found in a canonical value is canonical: its texts are the bytes of a text, and
each of its objects has its keys, which are texts, in strictly ascending order. So a key of a
canonical object has one member, which is the one that is found under the key.
-/

namespace StableFleet.Json.Value

variable {members : List (Bytes × Value)}

/-- Putting a value under a key adds no other member. -/
theorem mem_putMember {key : Bytes} {value : Value} {member : Bytes × Value}
    (present : member ∈ putMember key value members) :
    member = (key, value) ∨ member ∈ members := by
  induction members with
  | nil => exact .inl (List.mem_singleton.mp present)
  | cons head rest inductionHypothesis =>
    rw [putMember] at present
    split at present
    · exact List.mem_cons.mp present
    · split at present
      · exact (List.mem_cons.mp present).imp_right (List.mem_cons_of_mem _)
      · rcases List.mem_cons.mp present with rfl | later
        · exact .inr List.mem_cons_self
        · exact (inductionHypothesis later).imp_right (List.mem_cons_of_mem _)

/-- Of two different keys that are not in order, the second comes first. -/
theorem key_lt_of_not_lt {left right : Bytes} (unordered : ¬ left < right)
    (different : left ≠ right) : right < left :=
  List.not_le.mp fun below => different (List.le_antisymm below (List.not_lt.mp unordered))

/-- Putting a value under a key keeps the order. -/
theorem putMember_ascending (key : Bytes) (value : Value)
    (ascending : members.Pairwise fun left right => left.1 < right.1) :
    (putMember key value members).Pairwise fun left right => left.1 < right.1 := by
  induction members with
  | nil => exact List.pairwise_singleton _ _
  | cons head rest inductionHypothesis =>
    obtain ⟨first, ascending'⟩ := List.pairwise_cons.mp ascending
    rw [putMember]
    split
    · next before =>
      refine List.pairwise_cons.mpr ⟨?_, ascending⟩
      exact List.forall_mem_cons.mpr ⟨before, fun member later =>
        List.lt_trans before (first member later)⟩
    · next unordered =>
      split
      · next same => exact List.pairwise_cons.mpr ⟨same ▸ first, ascending'⟩
      · next different =>
        refine List.pairwise_cons.mpr ⟨fun member present => ?_, inductionHypothesis ascending'⟩
        rcases mem_putMember present with rfl | kept
        · exact key_lt_of_not_lt unordered different
        · exact first member kept

/-- The members in key order are members, and their keys are in strictly ascending order. The
induction puts one member after another among those that are sorted. -/
theorem sortMembers_sorted (members : List (Bytes × Value)) :
    (∀ member ∈ sortMembers members, member ∈ members) ∧
      (sortMembers members).Pairwise fun left right => left.1 < right.1 := by
  have put (members sorted : List (Bytes × Value))
      (ascending : sorted.Pairwise fun left right => left.1 < right.1) :
      let all := members.foldl (fun sorted member => putMember member.1 member.2 sorted) sorted
      (∀ member ∈ all, member ∈ sorted ∨ member ∈ members) ∧
        all.Pairwise fun left right => left.1 < right.1 := by
    induction members generalizing sorted with
    | nil => exact ⟨fun _ present => .inl present, ascending⟩
    | cons member members inductionHypothesis =>
      obtain ⟨given, ordered⟩ := inductionHypothesis _ (putMember_ascending _ member.2 ascending)
      refine ⟨fun other present => ?_, ordered⟩
      rcases given other present with there | later
      · rcases mem_putMember there with rfl | before
        · exact .inr List.mem_cons_self
        · exact .inl before
      · exact .inr (List.mem_cons_of_mem _ later)
  obtain ⟨given, ordered⟩ := put members [] .nil
  exact ⟨fun member present => (given member present).resolve_left List.not_mem_nil, ordered⟩

/-- Of members in the order of their keys, the last from which something is found is one after
which there is no other. -/
theorem findSome?_reverse_eq_some_iff {α : Type}
    (ascending : members.Pairwise fun left right => left.1 < right.1)
    {found? : Bytes × Value → Option α} {found : α} :
    members.reverse.findSome? found? = some found ↔
      ∃ member ∈ members, found? member = some found ∧
        ∀ later ∈ members, member.1 < later.1 → found? later = none := by
  have descending := List.pairwise_reverse.mpr ascending
  constructor
  · intro last
    obtain ⟨after, member, before, split, here, none⟩ := List.findSome?_eq_some_iff.mp last
    have present : member ∈ members := by
      rw [← List.mem_reverse, split]
      exact List.mem_append_right _ List.mem_cons_self
    refine ⟨member, present, here, fun later listed follows => ?_⟩
    rw [← List.mem_reverse, split, List.mem_append, List.mem_cons] at listed
    rw [split] at descending
    rcases listed with behind | rfl | earlier
    · exact none later behind
    · exact absurd follows (List.lt_irrefl _)
    · have precedes := (List.pairwise_cons.mp (List.pairwise_append.mp descending).2.1).1 _ earlier
      exact absurd (List.lt_trans precedes follows) (List.lt_irrefl _)
  · rintro ⟨member, present, here, none⟩
    obtain ⟨after, before, split⟩ := List.append_of_mem (List.mem_reverse.mpr present)
    refine List.findSome?_eq_some_iff.mpr ⟨after, member, before, split, here, ?_⟩
    intro later behind
    have listed : later ∈ members := by
      rw [← List.mem_reverse, split]
      exact List.mem_append_left _ behind
    rw [split] at descending
    exact none later listed
      ((List.pairwise_append.mp descending).2.2 later behind member List.mem_cons_self)

/-- A value is the canonical form of some value. -/
def IsCanonical (value : Value) : Prop :=
  ∃ levels source, canonicalWithin? levels source = some value

/-- An object has a value under a key. -/
def Has (value : Value) (key : String) (part : Value) : Prop :=
  ∃ members, value = .object members ∧ (Bytes.ofText key, part) ∈ members

namespace IsCanonical

variable {value part : Value} {key : String}

/-- The members of a canonical object are in strictly ascending order of their keys, which
are texts, and their values are canonical. -/
theorem of_members (canonical : IsCanonical (.object members)) :
    members.Pairwise (fun left right => left.1 < right.1) ∧
      ∀ member ∈ members, (∃ key, member.1 = Bytes.ofText key) ∧ IsCanonical member.2 := by
  obtain ⟨levels, source, formed⟩ := canonical
  rcases canonicalWithin?_cases formed with
    ⟨plain, rfl⟩ | ⟨_, _, _, _, array, _⟩ | ⟨below, given, forms, rfl, same, each⟩
  · cases plain
  · cases array
  obtain rfl := Value.object.inj same
  obtain ⟨listed, ascending⟩ := sortMembers_sorted forms
  refine ⟨ascending, fun member present => ?_⟩
  obtain ⟨value, origin, form⟩ := value_of_canonicalMembers? each (listed member present)
  have text := isText_of_canonicalMembers? each _ origin
  obtain ⟨key, found⟩ := Option.isSome_iff_exists.mp text
  exact ⟨⟨key, Bytes.text?_eq_some_iff.mp found⟩, below, value, form⟩

/-- A value that a canonical value has is canonical. -/
theorem of_has (canonical : IsCanonical value) (has : value.Has key part) : IsCanonical part := by
  obtain ⟨members, rfl, present⟩ := has
  exact (canonical.of_members.2 _ present).2

/-- The member that is found under a key of a canonical value is the one that it has. -/
theorem member?_eq_some_iff (canonical : IsCanonical value) :
    value.member? key = some part ↔ value.Has key part := by
  unfold member? Has
  rw [Option.map_eq_some_iff]
  constructor
  · rintro ⟨⟨other, found⟩, first, rfl⟩
    obtain rfl : other = Bytes.ofText key := by simpa using List.find?_some first
    have present := List.mem_of_find?_eq_some first
    cases value with
    | object members => exact ⟨members, rfl, present⟩
    | _ => cases present
  · rintro ⟨members, rfl, present⟩
    have ascending := canonical.of_members.1
    refine ⟨(Bytes.ofText key, part), List.find?_eq_some_iff_append.mpr ⟨by simp, ?_⟩, rfl⟩
    obtain ⟨before, after, rfl⟩ := List.append_of_mem present
    refine ⟨before, after, rfl, fun member earlier => ?_⟩
    have smaller := (List.pairwise_append.mp ascending).2.2 member earlier _ List.mem_cons_self
    have different : member.1 ≠ Bytes.ofText key := fun same =>
      List.lt_irrefl _ (same ▸ smaller)
    simpa using different

/-- A canonical value has one value under a key. -/
theorem has_unique (canonical : IsCanonical value) {other : Value} (has : value.Has key part)
    (has' : value.Has key other) : part = other := by
  rw [← canonical.member?_eq_some_iff] at has has'
  exact Option.some.inj (has.symm.trans has')

end IsCanonical

/-- A value is read as a text exactly when it is that text. -/
theorem text?_eq_some_iff {value : Value} {content : String} :
    value.text? = some content ↔ value = .ofText content := by
  cases value with
  | text bytes => simp [text?, ofText, Bytes.text?_eq_some_iff]
  | _ => simp [text?, ofText]

end StableFleet.Json.Value
