/-!
# Sets of texts

A set of texts is kept as a list in strictly ascending order, so that each text
stands in it once and equal sets are equal lists. Putting a text in changes
membership of that text alone.
-/

namespace StableFleet

/-- Finitely many texts in ascending order. -/
structure TextSet where
  texts : List String
  ascending : texts.Pairwise fun left right => left < right

namespace TextSet

instance : DecidableEq TextSet := fun left right =>
  if same : left.texts = right.texts then
    .isTrue (by cases left; cases right; cases same; rfl)
  else .isFalse fun equal => same (congrArg texts equal)

instance : Repr TextSet := ⟨fun set precedence => reprPrec set.texts precedence⟩

/-- A list of texts in ascending order with a text put in. -/
def insertIn (text : String) : List String → List String
  | [] => [text]
  | other :: rest =>
    if text < other then text :: other :: rest
    else if text = other then other :: rest
    else other :: insertIn text rest

/-- Putting a text in adds that text and keeps the others. -/
theorem mem_insertIn {text other : String} {texts : List String} :
    other ∈ insertIn text texts ↔ other = text ∨ other ∈ texts := by
  induction texts with
  | nil => simp [insertIn]
  | cons head rest inductionHypothesis =>
    simp only [insertIn]
    split
    · simp
    · split
      · next same =>
        subst same
        simp
      · simp only [List.mem_cons, inductionHypothesis]
        exact or_left_comm

/-- Putting a text in keeps the order. -/
theorem insertIn_ascending {text : String} {texts : List String}
    (ascending : texts.Pairwise fun left right => left < right) :
    (insertIn text texts).Pairwise fun left right => left < right := by
  induction texts with
  | nil => simp [insertIn]
  | cons head rest inductionHypothesis =>
    have parts := List.pairwise_cons.mp ascending
    simp only [insertIn]
    split
    · next before =>
      refine List.pairwise_cons.mpr ⟨?_, ascending⟩
      intro other present
      rcases List.mem_cons.mp present with same | later
      · exact same ▸ before
      · exact String.lt_trans before (parts.1 other later)
    · next unordered =>
      split
      · exact ascending
      · next different =>
        refine List.pairwise_cons.mpr ⟨?_, inductionHypothesis parts.2⟩
        intro other present
        rcases mem_insertIn.mp present with added | kept
        · subst added
          rcases String.le_total other head with below | above
          · exact absurd (String.le_antisymm below (String.not_lt.mp unordered)) different
          · apply Decidable.byContradiction
            intro notAbove
            exact different (String.le_antisymm (String.not_lt.mp notAbove) above)
        · exact parts.1 other kept

/-- Texts in ascending order are different from each other. -/
theorem nodup_of_ascending {texts : List String}
    (ascending : texts.Pairwise fun left right => left < right) : texts.Nodup := by
  refine ascending.imp fun before same => ?_
  exact String.lt_irrefl _ (same ▸ before)

/-- Texts in ascending order are determined by which they are. -/
theorem eq_of_ascending {texts others : List String}
    (ascending : texts.Pairwise fun left right => left < right)
    (ascending' : others.Pairwise fun left right => left < right)
    (same : ∀ text, text ∈ texts ↔ text ∈ others) : texts = others := by
  have permuted : texts.Perm others :=
    (List.perm_ext_iff_of_nodup (nodup_of_ascending ascending)
      (nodup_of_ascending ascending')).mpr same
  refine List.Perm.eq_of_pairwise ?_ ascending ascending' permuted
  intro left right _ _ before after
  exact absurd (String.lt_trans before after) (String.lt_irrefl left)

/-- The set without texts. -/
def empty : TextSet := ⟨[], List.Pairwise.nil⟩

instance : EmptyCollection TextSet := ⟨empty⟩
instance : Inhabited TextSet := ⟨empty⟩

/-- The set with a text put in. -/
def insert (set : TextSet) (text : String) : TextSet :=
  ⟨insertIn text set.texts, insertIn_ascending set.ascending⟩

/-- The set of some texts. -/
def ofList (texts : List String) : TextSet := texts.foldr (fun text set => set.insert text) empty

/-- The texts in ascending order. -/
def toList (set : TextSet) : List String := set.texts

/-- Whether a set has no text. -/
def isEmpty (set : TextSet) : Bool := set.texts.isEmpty

/-- Whether a text is in a set. -/
def contains (set : TextSet) (text : String) : Bool := set.texts.contains text

instance : Membership String TextSet := ⟨fun set text => text ∈ set.texts⟩

theorem contains_iff {set : TextSet} {text : String} : set.contains text = true ↔ text ∈ set := by
  simp [contains, Membership.mem]

/-- The texts of a set made from a list are those of the list. -/
theorem mem_ofList {texts : List String} {text : String} : text ∈ ofList texts ↔ text ∈ texts := by
  induction texts with
  | nil => simp [ofList, empty, Membership.mem]
  | cons head rest inductionHypothesis =>
    have step : text ∈ ofList (head :: rest) ↔ text = head ∨ text ∈ ofList rest := mem_insertIn
    rw [step, inductionHypothesis, List.mem_cons]

end TextSet

end StableFleet
