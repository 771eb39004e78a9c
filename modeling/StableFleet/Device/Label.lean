/-!
# Labels

A label is one of finitely many values that have a name each. One of them means
that the label is not set. A label is determined by its name, and the names of
its kind are all that can be read as one.
-/

namespace StableFleet

/-- Values that are known by their names. -/
class Label (α : Type) where
  /-- What the values are called together. -/
  kind : String
  /-- The value of a label that is not set. -/
  unset : α
  /-- The values of a label that is set. -/
  others : List α
  /-- The name of a value. -/
  name : α → String
  complete : ∀ label : α, label = unset ∨ label ∈ others
  distinct : ((unset :: others).map name).Nodup

namespace Label

variable {α : Type}

/-- Every value, the one that means nothing first. -/
def all [Label α] : List α := unset :: others

/-- The value with a name. -/
def read? [Label α] (text : String) : Option α := (all (α := α)).find? fun label => name label = text

/-- Whether a label is set. -/
def isSet [Label α] [DecidableEq α] (label : α) : Bool := label ≠ unset

/-- Every value is among all of them. -/
theorem mem_all [Label α] (label : α) : label ∈ all (α := α) :=
  List.mem_cons.mpr (complete label)

/-- In a list of values with different names, a value is the first with its name. -/
theorem find?_name [Label α] {labels : List α} (distinct : (labels.map name).Nodup) {label : α}
    (present : label ∈ labels) : labels.find? (fun other => name other = name label) = some label := by
  induction labels with
  | nil => cases present
  | cons head rest inductionHypothesis =>
    have parts := List.nodup_cons.mp distinct
    rcases List.mem_cons.mp present with same | later
    · subst same
      simp
    · have different : name head ≠ name label := fun same =>
        parts.1 (same ▸ List.mem_map_of_mem later)
      rw [List.find?_cons_of_neg (by simpa using different)]
      exact inductionHypothesis parts.2 later

/-- A value is read from its name. -/
@[simp] theorem read?_name [Label α] (label : α) : read? (name label) = some label :=
  find?_name distinct (mem_all label)

/-- A text is read as a value exactly when it is the name of that value. -/
theorem read?_eq_some_iff [Label α] {text : String} {label : α} :
    read? text = some label ↔ text = name label := by
  constructor
  · intro found
    have named := List.find?_some found
    exact (by simpa using named : name label = text).symm
  · intro same
    subst same
    exact read?_name label

/-- Different values have different names. -/
theorem name_injective [Label α] {left right : α} (same : name left = name right) :
    left = right := by
  have read := read?_name left
  rw [same, read?_name] at read
  exact (Option.some.inj read).symm

end Label

end StableFleet
