/-!
# Cutting text at a mark

A text, or any list, is cut at the first place where a mark stands; what is
before and what is after it are the two parts.
-/

namespace StableFleet.Text

universe u
variable {α : Type u} [DecidableEq α]

/-- The parts before and after the first occurrence of a mark. -/
def cutAt? (mark : α) : List α → Option (List α × List α)
  | [] => none
  | char :: rest =>
    if char = mark then some ([], rest)
    else (cutAt? mark rest).map fun parts => (char :: parts.1, parts.2)

/-- What follows a given beginning. -/
def after? : List α → List α → Option (List α)
  | [], chars => some chars
  | _ :: _, [] => none
  | expected :: start, char :: rest => if expected = char then after? start rest else none

/-- What follows the first occurrence of a run, with what comes
before it. -/
def cutAtRun? (run : List α) : List α → Option (List α × List α)
  | [] => (after? run []).map fun rest => ([], rest)
  | char :: chars =>
    match after? run (char :: chars) with
    | some rest => some ([], rest)
    | none => (cutAtRun? run chars).map fun parts => (char :: parts.1, parts.2)

/-- The pieces of a text between the occurrences of a mark. -/
def pieces (mark : α) : List α → List (List α)
  | [] => [[]]
  | char :: rest =>
    if char = mark then [] :: pieces mark rest
    else match pieces mark rest with
      | [] => [[char]]
      | first :: others => (char :: first) :: others

/-- A text is cut into two parts exactly when the mark joins them and the first
is free of it. -/
theorem cutAt?_eq_some_iff {mark : α} {chars before after : List α} :
    cutAt? mark chars = some (before, after) ↔
      chars = before ++ mark :: after ∧ mark ∉ before := by
  induction chars generalizing before with
  | nil => simp [cutAt?]
  | cons char rest inductionHypothesis =>
    by_cases found : char = mark
    · subst found
      cases before with
      | nil => simp [cutAt?]
      | cons head tail =>
        simp only [cutAt?, if_pos, Option.some.injEq, Prod.mk.injEq, List.nil_eq, reduceCtorEq,
          false_and, List.cons_append, List.cons.injEq, List.mem_cons, not_or, false_iff]
        intro claim
        exact claim.2.1 claim.1.1
    · cases before with
      | nil => simp [cutAt?, found]
      | cons head tail =>
        simp only [cutAt?, if_neg found, Option.map_eq_some_iff, Prod.exists, Prod.mk.injEq,
          List.cons.injEq, List.cons_append, List.mem_cons, not_or]
        constructor
        · rintro ⟨first, second, cut, ⟨rfl, rfl⟩, rfl⟩
          have parts := inductionHypothesis.mp cut
          exact ⟨⟨rfl, parts.1⟩, fun same => found same.symm, parts.2⟩
        · rintro ⟨⟨rfl, joined⟩, _, free⟩
          exact ⟨tail, after, inductionHypothesis.mpr ⟨joined, free⟩, ⟨rfl, rfl⟩, rfl⟩

/-- A beginning is taken off exactly when the text is that beginning followed by
the rest. -/
theorem after?_eq_some_iff {start chars rest : List α} :
    after? start chars = some rest ↔ chars = start ++ rest := by
  induction start generalizing chars with
  | nil => simp [after?]
  | cons expected start inductionHypothesis =>
    cases chars with
    | nil => simp [after?]
    | cons char chars =>
      by_cases same : expected = char
      · subst same
        simp [after?, inductionHypothesis]
      · have other : char ≠ expected := fun equal => same equal.symm
        simp [after?, same, other]

end StableFleet.Text
