import StableFleet.Json.Canonical

/-!
# What a canonical form holds

The canonical form of an array has the canonical forms of its items. The canonical form
of an object has the members of the object in the order of their keys, each with its
value in canonical form. Of members with the same key it has the last; so a key that
occurs once at most has the same member in both.
-/

namespace StableFleet.Json.Value

/-- Whether a value is neither an array nor an object. -/
def isPlain : Value → Bool
  | .array _ => false
  | .object _ => false
  | _ => true

/-- A plain value is its own canonical form; an array has the canonical forms of its
items, and an object those of its members in order. -/
theorem canonicalWithin?_cases {levels : Nat} {value canonical : Value}
    (formed : canonicalWithin? levels value = some canonical) :
    (value.isPlain = true ∧ canonical = value) ∨
    (∃ below items forms, value = .array items ∧ canonical = .array forms ∧
      canonicalItems? below items = some forms) ∨
    ∃ below members forms, value = .object members ∧ canonical = .object (sortMembers forms) ∧
      canonicalMembers? below members = some forms := by
  cases value with
  | null =>
    rw [canonicalWithin?] at formed
    exact .inl ⟨rfl, (Option.some.inj formed).symm⟩
  | bool flag =>
    rw [canonicalWithin?] at formed
    exact .inl ⟨rfl, (Option.some.inj formed).symm⟩
  | number written =>
    rw [canonicalWithin?, Option.ite_none_right_eq_some] at formed
    exact .inl ⟨rfl, (Option.some.inj formed.2).symm⟩
  | text bytes =>
    rw [canonicalWithin?, Option.ite_none_right_eq_some] at formed
    exact .inl ⟨rfl, (Option.some.inj formed.2).symm⟩
  | array items =>
    cases levels with
    | zero => rw [canonicalWithin?] at formed; cases formed
    | succ below =>
      rw [canonicalWithin?, Option.map_eq_some_iff] at formed
      obtain ⟨forms, formed, rfl⟩ := formed
      exact .inr (.inl ⟨below, items, forms, rfl, rfl, formed⟩)
  | object members =>
    cases levels with
    | zero => rw [canonicalWithin?] at formed; cases formed
    | succ below =>
      rw [canonicalWithin?, Option.map_eq_some_iff] at formed
      obtain ⟨forms, formed, rfl⟩ := formed
      exact .inr (.inr ⟨below, members, forms, rfl, rfl, formed⟩)

/-- Of the values that have a canonical form, objects have one that is an object. -/
theorem isObject_canonical {levels : Nat} {value canonical : Value}
    (formed : canonicalWithin? levels value = some canonical) :
    canonical.isObject = value.isObject := by
  rcases canonicalWithin?_cases formed with
    ⟨_, rfl⟩ | ⟨_, _, _, rfl, rfl, _⟩ | ⟨_, _, _, rfl, rfl, _⟩ <;> rfl

/-- The items of an array and their canonical forms come in pairs. -/
theorem canonicalItems?_cons {levels : Nat} {item : Value} {items forms : List Value}
    (formed : canonicalItems? levels (item :: items) = some forms) :
    ∃ form others, forms = form :: others ∧ canonicalWithin? levels item = some form ∧
      canonicalItems? levels items = some others := by
  rw [canonicalItems?] at formed
  split at formed
  · next form others first rest => exact ⟨form, others, (Option.some.inj formed).symm, first, rest⟩
  · cases formed

/-- The bytes of a text are a text. -/
@[simp] theorem isText_ofText (content : String) : isText (Bytes.ofText content) = true := by
  simp [isText]

variable {key : Bytes} {members : List (Bytes × Value)}

/-- How many members have a key. -/
def occurrences (key : Bytes) (members : List (Bytes × Value)) : Nat :=
  members.countP fun member => member.1 = key

theorem occurrences_cons (key other : Bytes) (value : Value) (members : List (Bytes × Value)) :
    occurrences key ((other, value) :: members) =
      occurrences key members + if other = key then 1 else 0 := by
  simp [occurrences, List.countP_cons]

theorem lookup_cons_eq (key other : Bytes) (value : Value) (members : List (Bytes × Value)) :
    ((other, value) :: members).lookup key =
      if other = key then some value else members.lookup key := by
  by_cases same : other = key
  · subst same
    simp
  · have different : (key == other) = false := beq_false_of_ne fun equal => same equal.symm
    simp [List.lookup_cons, different, same]

/-- A key has no member exactly when it does not occur. -/
theorem lookup_eq_none_iff_occurrences : members.lookup key = none ↔ occurrences key members = 0 := by
  induction members with
  | nil => simp [occurrences]
  | cons member members inductionHypothesis =>
    obtain ⟨other, value⟩ := member
    rw [lookup_cons_eq, occurrences_cons]
    by_cases same : other = key <;> simp [same, inductionHypothesis]

/-- When a key occurs once at most, its first member is its last. -/
theorem lookup_reverse (single : occurrences key members ≤ 1) :
    members.reverse.lookup key = members.lookup key := by
  induction members with
  | nil => rfl
  | cons member members inductionHypothesis =>
    obtain ⟨other, value⟩ := member
    rw [occurrences_cons] at single
    have rest := inductionHypothesis (by omega)
    rw [List.reverse_cons, List.lookup_append, rest, lookup_cons_eq, lookup_cons_eq]
    by_cases same : other = key
    · rw [if_pos same] at single
      have absent := lookup_eq_none_iff_occurrences.mpr (show occurrences key members = 0 by omega)
      simp [same, absent]
    · simp [same]

/-- A member that is put among others is the one found under its key, and what is
found under any other key is as before. -/
theorem lookup_putMember (key other : Bytes) (value : Value) (members : List (Bytes × Value)) :
    (putMember other value members).lookup key =
      if other = key then some value else members.lookup key := by
  induction members with
  | nil => rw [putMember, lookup_cons_eq]
  | cons member members inductionHypothesis =>
    obtain ⟨present, old⟩ := member
    rw [putMember]
    split
    · rw [lookup_cons_eq]
    · split
      · next replaced =>
        subst replaced
        by_cases same : other = key <;> simp [lookup_cons_eq, same]
      · next before different =>
        rw [lookup_cons_eq, inductionHypothesis, lookup_cons_eq]
        by_cases here : present = key
        · have other : ¬ other = key := fun same => different (same.trans here.symm)
          simp [here, other]
        · simp [here]

/-- Of the members with a key, the last one counts. -/
theorem lookup_sortMembers (key : Bytes) (members : List (Bytes × Value)) :
    (sortMembers members).lookup key = members.reverse.lookup key := by
  have put (sorted : List (Bytes × Value)) :
      (members.foldl (fun sorted member => putMember member.1 member.2 sorted) sorted).lookup key =
        (members.reverse ++ sorted).lookup key := by
    induction members generalizing sorted with
    | nil => rfl
    | cons member members inductionHypothesis =>
      rw [List.foldl_cons, inductionHypothesis, List.reverse_cons, List.append_assoc,
        List.lookup_append, List.lookup_append, lookup_putMember, List.singleton_append,
        lookup_cons_eq]
  rw [sortMembers, put, List.append_nil]

/-- A member with a new key is added to those that are there. -/
theorem putMember_perm (value : Value) (fresh : key ∉ members.map (·.1)) :
    (putMember key value members).Perm ((key, value) :: members) := by
  induction members with
  | nil => exact .refl _
  | cons member members inductionHypothesis =>
    obtain ⟨other, old⟩ := member
    rw [List.map_cons, List.mem_cons, not_or] at fresh
    rw [putMember]
    split
    · exact .refl _
    · rw [if_neg fresh.1]
      exact ((inductionHypothesis fresh.2).cons _).trans (.swap _ _ _)

/-- Members with distinct keys are the same in key order. The induction puts one after
another among those that are sorted. -/
theorem sortMembers_perm (distinct : (members.map (·.1)).Nodup) :
    (sortMembers members).Perm members := by
  have put (members sorted : List (Bytes × Value))
      (distinct : ((sorted ++ members).map (·.1)).Nodup) :
      (members.foldl (fun sorted member => putMember member.1 member.2 sorted) sorted).Perm
        (sorted ++ members) := by
    induction members generalizing sorted with
    | nil =>
      rw [List.append_nil]
      exact .refl _
    | cons member members inductionHypothesis =>
      have moved : (sorted ++ member :: members).Perm (member :: (sorted ++ members)) :=
        List.perm_middle
      have unique := (moved.map (·.1)).nodup_iff.mp distinct
      rw [List.map_cons, List.nodup_cons, List.map_append, List.mem_append, not_or] at unique
      have added := ((putMember_perm member.2 unique.1.1).append_right members).trans moved.symm
      exact (inductionHypothesis _ ((added.map (·.1)).nodup_iff.mpr distinct)).trans added
  exact put members [] distinct

variable {levels : Nat} {canonical : List (Bytes × Value)}

/-- The members of an object and their canonical forms come in pairs. -/
theorem canonicalMembers?_cons {value : Value}
    (formed : canonicalMembers? levels ((key, value) :: members) = some canonical) :
    isText key = true ∧ ∃ form others, canonical = (key, form) :: others ∧
      canonicalWithin? levels value = some form ∧ canonicalMembers? levels members = some others := by
  rw [canonicalMembers?] at formed
  split at formed
  · next text =>
    split at formed
    · next form others first rest =>
      exact ⟨text, form, others, (Option.some.inj formed).symm, first, rest⟩
    · cases formed
  · cases formed

/-- Members with well-formed keys whose values have canonical forms have canonical forms. -/
theorem exists_canonicalMembers? (formed : ∀ member ∈ members, isText member.1 = true ∧
    ∃ form, canonicalWithin? levels member.2 = some form) :
    ∃ canonical, canonicalMembers? levels members = some canonical := by
  induction members with
  | nil => exact ⟨[], by rw [canonicalMembers?]⟩
  | cons member members inductionHypothesis =>
    obtain ⟨⟨text, form, first⟩, others⟩ := List.forall_mem_cons.mp formed
    obtain ⟨forms, rest⟩ := inductionHypothesis others
    exact ⟨(member.1, form) :: forms, by rw [canonicalMembers?, if_pos text, first, rest]⟩

/-- Members that have canonical forms have well-formed keys. -/
theorem isText_of_canonicalMembers? (formed : canonicalMembers? levels members = some canonical) :
    ∀ member ∈ members, isText member.1 = true := by
  induction members generalizing canonical with
  | nil => nofun
  | cons member members inductionHypothesis =>
    obtain ⟨text, _, _, _, _, rest⟩ := canonicalMembers?_cons formed
    exact List.forall_mem_cons.mpr ⟨text, inductionHypothesis rest⟩

/-- Members and their canonical forms have the same keys. -/
theorem keys_canonicalMembers? (formed : canonicalMembers? levels members = some canonical) :
    canonical.map (·.1) = members.map (·.1) := by
  induction members generalizing canonical with
  | nil =>
    rw [canonicalMembers?] at formed
    obtain rfl := Option.some.inj formed
    rfl
  | cons member members inductionHypothesis =>
    obtain ⟨_, _, _, rfl, _, rest⟩ := canonicalMembers?_cons formed
    exact congrArg (member.1 :: ·) (inductionHypothesis rest)

/-- The canonical form of a member is that of a member with the same key. -/
theorem value_of_canonicalMembers? (formed : canonicalMembers? levels members = some canonical)
    {member : Bytes × Value} (present : member ∈ canonical) :
    ∃ value, (member.1, value) ∈ members ∧ canonicalWithin? levels value = some member.2 := by
  induction members generalizing canonical with
  | nil =>
    rw [canonicalMembers?] at formed
    obtain rfl := Option.some.inj formed
    cases present
  | cons first members inductionHypothesis =>
    obtain ⟨_, form, others, rfl, found, rest⟩ := canonicalMembers?_cons formed
    rcases List.mem_cons.mp present with rfl | later
    · exact ⟨first.2, List.mem_cons_self, found⟩
    · obtain ⟨value, member, found⟩ := inductionHypothesis rest later
      exact ⟨value, List.mem_cons_of_mem _ member, found⟩

/-- The members of an object and their canonical forms: a key occurs as often in both,
and its first member has the first canonical form. -/
theorem lookup_canonicalMembers? (formed : canonicalMembers? levels members = some canonical)
    (key : Bytes) :
    occurrences key canonical = occurrences key members ∧
      (members.lookup key).map (canonicalWithin? levels) = (canonical.lookup key).map some := by
  induction members generalizing canonical with
  | nil =>
    rw [canonicalMembers?] at formed
    obtain rfl := Option.some.inj formed
    exact ⟨rfl, rfl⟩
  | cons member members inductionHypothesis =>
    obtain ⟨other, value⟩ := member
    obtain ⟨_, form, forms, rfl, valueFormed, rest⟩ := canonicalMembers?_cons formed
    obtain ⟨count, found⟩ := inductionHypothesis rest
    refine ⟨by rw [occurrences_cons, occurrences_cons, count], ?_⟩
    rw [lookup_cons_eq, lookup_cons_eq]
    by_cases same : other = key <;> simp [same, found, valueFormed]

/-- A key that occurs once at most has the same member in the canonical object, with
its value in canonical form. -/
theorem lookup_sorted_canonical (formed : canonicalMembers? levels members = some canonical)
    (single : occurrences key members ≤ 1) :
    (members.lookup key).map (canonicalWithin? levels) =
      ((sortMembers canonical).lookup key).map some := by
  obtain ⟨count, found⟩ := lookup_canonicalMembers? formed key
  rw [lookup_sortMembers, lookup_reverse (by omega), found]

end StableFleet.Json.Value
