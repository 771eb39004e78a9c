import StableFleet.Path

/-!
# Names that stay below a directory

What a joined path denotes is found by going on, from the place of the path, along the name
that was joined. An absolute name forgets that place, and a name with `..` may lead above
it. So names that are joined to a directory one after another stay below it when none of
them is absolute and the walk along all of them never goes above where it starts.

A walk that has gone above a directory has left its last name behind. It is below the
directory again only if one of the names that it goes along is that last name. Apart from
this coincidence, the names that stay below are the only ones that end below.
-/

namespace StableFleet

namespace Text

variable {α : Type} [DecidableEq α] {mark : α}

/-- A text has a piece, be it an empty one. -/
theorem pieces_ne_nil (mark : α) (chars : List α) : pieces mark chars ≠ [] := by
  cases chars with
  | nil => exact nofun
  | cons char rest =>
    rw [pieces]
    split
    · exact nofun
    · split <;> exact nofun

/-- The pieces of two texts that a mark joins are those of the one and then those of the
other. -/
theorem pieces_append (mark : α) (before after : List α) :
    pieces mark (before ++ mark :: after) = pieces mark before ++ pieces mark after := by
  induction before with
  | nil => simp [pieces]
  | cons char rest inductionHypothesis =>
    by_cases found : char = mark
    · simp [pieces, found, inductionHypothesis]
    · simp only [List.cons_append, pieces, if_neg found, inductionHypothesis]
      cases parts : pieces mark rest with
      | nil => exact absurd parts (pieces_ne_nil mark rest)
      | cons first others => rfl

/-- A text without the mark is a single piece. -/
theorem pieces_of_not_mem {chars : List α} (absent : mark ∉ chars) :
    pieces mark chars = [chars] := by
  induction chars with
  | nil => rfl
  | cons char rest inductionHypothesis =>
    obtain ⟨other, absent⟩ : mark ≠ char ∧ mark ∉ rest := by simpa using absent
    simp only [pieces, if_neg (Ne.symm other), inductionHypothesis absent]

end Text

namespace Path

/-- The names of what a slash joins are those of the one part and then those of the
other. -/
theorem names_append (base name : String) :
    (⟨base ++ "/" ++ name⟩ : Path).names = (⟨base⟩ : Path).names ++ (⟨name⟩ : Path).names := by
  have chars : (base ++ "/" ++ name).toList = base.toList ++ '/' :: name.toList := by simp
  simp only [names, pieces, chars, Text.pieces_append, List.map_append, List.filter_append]

/-- A slash at the end of a path adds no name to it. -/
theorem names_append_slash (base : String) :
    (⟨base ++ "/"⟩ : Path).names = (⟨base⟩ : Path).names := by
  have joined := names_append base ""
  rw [String.append_empty] at joined
  rw [joined]
  exact List.append_nil _

variable (base : Path) {name : String}

/-- A name that is not absolute is gone along after the names of the path that it is joined
to, from where that path starts. -/
theorem names_join (relative : (⟨name⟩ : Path).isAbsolute = false) :
    (base.join name).names = base.names ++ (⟨name⟩ : Path).names ∧
      (base.join name).isAbsolute = base.isAbsolute := by
  obtain ⟨text⟩ := base
  have below : ¬ name.toList.head? = some '/' := by simpa [isAbsolute] using relative
  by_cases empty : text = ""
  · subst empty
    have alone : join ⟨""⟩ name = ⟨name⟩ := by simp [join]
    rw [alone, relative]
    exact ⟨rfl, rfl⟩
  · obtain ⟨first, rest, chars⟩ := List.exists_cons_of_ne_nil
      (show text.toList ≠ [] from fun none => empty (String.toList_eq_nil_iff.mp none))
    by_cases ended : text.toList.getLast? = some '/'
    · -- The path ends with a slash of its own; without it, it has the same names.
      have joined : join ⟨text⟩ name = ⟨text ++ name⟩ := by simp [join, below, empty, ended]
      obtain ⟨above, parts⟩ := List.getLast?_eq_some_iff.mp ended
      have base : text = String.ofList above ++ "/" := by
        rw [← String.toList_inj, parts]
        simp
      rw [joined]
      refine ⟨?_, by simp [isAbsolute, chars]⟩
      rw [base, names_append, names_append_slash]
    · have joined : join ⟨text⟩ name = ⟨text ++ "/" ++ name⟩ := by
        simp [join, below, empty, ended]
      rw [joined]
      exact ⟨names_append text name, by simp [isAbsolute, chars]⟩

/-- What a joined path denotes is where the name leads from the place of the path. -/
theorem placeFrom_join (here : List String) (name : String) :
    (base.join name).placeFrom here = (⟨name⟩ : Path).placeFrom (base.placeFrom here) := by
  by_cases absolute : (⟨name⟩ : Path).isAbsolute = true
  · rw [join_of_absolute base (by simpa [isAbsolute] using absolute)]
    simp only [placeFrom, absolute, if_true]
  · have relative : (⟨name⟩ : Path).isAbsolute = false := by simpa using absolute
    obtain ⟨names, starts⟩ := base.names_join relative
    simp only [placeFrom, names, starts, relative, List.foldl_append, Bool.false_eq_true,
      if_false, List.reverse_reverse]

/-- A name without slashes that neither stays where it is nor goes up. -/
structure Plain (name : String) : Prop where
  single : '/' ∉ name.toList
  named : name ≠ ""
  moves : name ≠ "."
  descends : name ≠ ".."

/-- A plain name is gone along as it is. -/
theorem Plain.names (plain : Plain name) : (⟨name⟩ : Path).names = [name] := by
  simp [Path.names, pieces, Text.pieces_of_not_mem plain.single, plain.named, plain.moves]

theorem Plain.relative (plain : Plain name) : (⟨name⟩ : Path).isAbsolute = false := by
  have other : name.toList.head? ≠ some '/' := fun first =>
    plain.single (List.mem_of_mem_head? first)
  simpa [isAbsolute] using other

/-- A plain name stands in the place that it is joined to. -/
theorem Plain.placeFrom_join (plain : Plain name) (here : List String) :
    (base.join name).placeFrom here = base.placeFrom here ++ [name] := by
  rw [Path.placeFrom_join, placeFrom, plain.names, plain.relative]
  simp [step, plain.descends]

/-- A path denotes a place strictly below that of a directory. -/
def IsBelow (here : List String) (path directory : Path) : Prop :=
  ∃ first rest, path.placeFrom here = directory.placeFrom here ++ first :: rest

/-- What a plain name that is joined to a path denotes is strictly below a directory when
the path is there or the directory itself. -/
theorem Plain.isBelow_join_iff {base : Path} (plain : Plain name) {here : List String}
    {directory : Path} :
    (base.join name).IsBelow here directory ↔
      ∃ further, base.placeFrom here = directory.placeFrom here ++ further := by
  unfold IsBelow
  rw [plain.placeFrom_join]
  constructor
  · rintro ⟨first, rest, same⟩
    obtain ⟨further, last, ends⟩ : ∃ further last, first :: rest = further ++ [last] :=
      ⟨_, _, (List.dropLast_concat_getLast (List.cons_ne_nil first rest)).symm⟩
    rw [ends, ← List.append_assoc] at same
    exact ⟨further, (List.append_inj' same rfl).1⟩
  · rintro ⟨further, same⟩
    rw [same, List.append_assoc]
    obtain ⟨first, rest, ends⟩ := List.exists_cons_of_ne_nil
      (List.append_ne_nil_of_right_ne_nil further (List.cons_ne_nil name []))
    exact ⟨first, rest, by rw [ends]⟩

/-- Whether a walk along names never goes above where it started, when it has come a number
of places below. -/
def staysFrom : Nat → List String → Bool
  | _, [] => true
  | 0, name :: names => name != ".." && staysFrom 1 names
  | depth + 1, name :: names =>
    if name = ".." then staysFrom depth names else staysFrom (depth + 2) names

/-- The walk along two names that are joined to a directory one after the other. -/
def walk (first second : String) : List String :=
  (⟨first⟩ : Path).names ++ (⟨second⟩ : Path).names

/-- Whether two names that are joined to a directory one after the other stay below it:
neither is absolute, and the walk along both never goes above where it starts. -/
def confines (first second : String) : Bool :=
  !(⟨first⟩ : Path).isAbsolute && !(⟨second⟩ : Path).isAbsolute && staysFrom 0 (walk first second)

/-- A plain name does not lead above anything. -/
theorem staysFrom_append_plain (plain : Plain name) (depth : Nat) (names : List String) :
    staysFrom depth (names ++ [name]) = staysFrom depth names := by
  induction names generalizing depth with
  | nil => cases depth <;> simp [staysFrom, plain.descends]
  | cons other names inductionHypothesis =>
    cases depth with
    | zero => simp only [List.cons_append, staysFrom, inductionHypothesis]
    | succ depth => simp only [List.cons_append, staysFrom, inductionHypothesis]

/-- A name followed by a plain one stays below a directory when it does so by itself. -/
theorem confines_of_plain (plain : Plain name) (first : String) :
    confines first name = confines first "" := by
  have empty : (⟨""⟩ : Path).names = [] ∧ (⟨""⟩ : Path).isAbsolute = false := by decide
  simp [confines, walk, plain.relative, plain.names, staysFrom_append_plain plain, empty]

/-- A walk that never goes above where it started ends there or below. -/
theorem foldl_step_of_stays {names : List String} (inner above : List String)
    (stays : staysFrom inner.length names = true) :
    ∃ further, names.foldl step (inner ++ above) = further ++ above := by
  induction names generalizing inner with
  | nil => exact ⟨inner, rfl⟩
  | cons name names inductionHypothesis =>
    cases inner with
    | nil =>
      obtain ⟨descends, stays⟩ : name ≠ ".." ∧ staysFrom 1 names = true := by
        simpa [staysFrom] using stays
      rw [List.foldl_cons, step, if_neg descends]
      exact inductionHypothesis [name] stays
    | cons last inner =>
      simp only [List.length_cons, staysFrom] at stays
      rw [List.foldl_cons, step]
      by_cases up : name = ".."
      · rw [if_pos up] at stays ⊢
        exact inductionHypothesis inner stays
      · rw [if_neg up] at stays ⊢
        exact inductionHypothesis (name :: last :: inner) stays

/-- A place, its last name first, that is reached from above a directory: what is left of the
names above the directory, and below them only names that were gone along. -/
def Strayed (above : List String) (seen : String → Prop) (place : List String) : Prop :=
  ∃ further rest, place = further ++ rest ∧ (∀ name ∈ further, seen name) ∧ rest <:+ above

section Strayed

variable {above names place : List String} {seen : String → Prop}

/-- Going on along names that count does not change that. -/
theorem Strayed.foldl_step (strayed : Strayed above seen place)
    (along : ∀ name ∈ names, seen name) : Strayed above seen (names.foldl step place) := by
  induction names generalizing place with
  | nil => exact strayed
  | cons name names inductionHypothesis =>
    obtain ⟨here, along⟩ := List.forall_mem_cons.mp along
    refine inductionHypothesis ?_ along
    obtain ⟨further, rest, rfl, counted, left⟩ := strayed
    unfold step
    split
    · cases further with
      | nil => exact ⟨[], rest.tail, rfl, nofun, (List.tail_suffix rest).trans left⟩
      | cons last further =>
        exact ⟨further, rest, rfl, fun other member => counted other (List.mem_cons_of_mem _ member),
          left⟩
    · exact ⟨name :: further, rest, rfl, List.forall_mem_cons.mpr ⟨here, counted⟩, left⟩

/-- A walk that goes above where it started, which is a directory, has strayed. -/
theorem strayed_of_leaves (inner : List String) (last : String)
    (leaves : staysFrom inner.length names = false) (counted : ∀ name ∈ inner, seen name)
    (along : ∀ name ∈ names, seen name) :
    Strayed above seen (names.foldl step (inner ++ last :: above)) := by
  induction names generalizing inner with
  | nil =>
    rw [staysFrom] at leaves
    cases leaves
  | cons name names inductionHypothesis =>
    obtain ⟨here, along⟩ := List.forall_mem_cons.mp along
    rw [List.foldl_cons, step]
    cases inner with
    | nil =>
      by_cases up : name = ".."
      · have start : Strayed above seen above := ⟨[], above, rfl, nofun, List.suffix_refl above⟩
        rw [if_pos up]
        exact start.foldl_step along
      · have leaves : staysFrom 1 names = false := by simpa [staysFrom, up] using leaves
        rw [if_neg up]
        exact inductionHypothesis [name] leaves (by simpa using here) along
    | cons deepest inner =>
      obtain ⟨counts, counted⟩ := List.forall_mem_cons.mp counted
      simp only [List.length_cons, staysFrom] at leaves
      by_cases up : name = ".."
      · rw [if_pos up] at leaves ⊢
        exact inductionHypothesis inner leaves counted along
      · rw [if_neg up] at leaves ⊢
        exact inductionHypothesis (name :: deepest :: inner) leaves
          (List.forall_mem_cons.mpr ⟨here, List.forall_mem_cons.mpr ⟨counts, counted⟩⟩) along

/-- A place that was reached from above a directory is below it only when the last name of
the directory was gone along. -/
theorem Strayed.seen_of_suffix {last : String} (strayed : Strayed above seen place)
    (back : last :: above <:+ place) : seen last := by
  obtain ⟨further, rest, rfl, counted, left⟩ := strayed
  obtain ⟨before, same⟩ := back
  rcases List.append_eq_append_iff.mp same with ⟨cut, parts, remains⟩ | ⟨cut, _, remains⟩
  · cases cut with
    | nil =>
      have short := left.length_le
      rw [← show last :: above = rest from remains, List.length_cons] at short
      omega
    | cons head cut =>
      obtain ⟨rfl, _⟩ := List.cons.inj remains
      exact counted last (parts ▸ List.mem_append_right before List.mem_cons_self)
  · have short := left.length_le
    rw [remains, List.length_append, List.length_cons] at short
    omega

end Strayed

section Joined

variable {here above : List String} {seen : String → Prop} {directory : Path}
  {first second leaf : String}

/-- Two names that are not absolute are gone along one after the other, from the place that
they are joined to. -/
theorem placeFrom_join_join (relative : (⟨first⟩ : Path).isAbsolute = false)
    (relative' : (⟨second⟩ : Path).isAbsolute = false) (here : List String) (directory : Path) :
    (((directory.join first).join second).placeFrom here).reverse =
      (walk first second).foldl step (directory.placeFrom here).reverse := by
  rw [placeFrom_join, placeFrom_join, placeFrom, placeFrom, relative, relative', walk,
    List.foldl_append]
  simp

/-- An absolute name has nothing of a directory in its place. -/
theorem strayed_of_absolute (directory : Path) (absolute : (⟨first⟩ : Path).isAbsolute = true)
    (along : ∀ name ∈ (⟨first⟩ : Path).names, seen name) :
    Strayed above seen ((directory.join first).placeFrom here).reverse := by
  have start : Strayed above seen [] := ⟨[], [], rfl, nofun, List.nil_suffix⟩
  rw [placeFrom_join, placeFrom, absolute, if_pos rfl, List.reverse_reverse]
  exact start.foldl_step along

/-- A path that has strayed stays so under every name that is joined to it. -/
theorem Strayed.join (strayed : Strayed above seen (directory.placeFrom here).reverse)
    (along : ∀ name ∈ (⟨first⟩ : Path).names, seen name) :
    Strayed above seen ((directory.join first).placeFrom here).reverse := by
  cases absolute : (⟨first⟩ : Path).isAbsolute with
  | true => exact strayed_of_absolute directory absolute along
  | false =>
    rw [placeFrom_join, placeFrom, absolute, if_neg Bool.false_ne_true, List.reverse_reverse]
    exact strayed.foldl_step along

/-- Names that stay below a directory lead to a place below it, with a plain name after
them. -/
theorem isBelow_of_confines (plain : Plain leaf) (confined : confines first second = true)
    (here : List String) (directory : Path) :
    (((directory.join first).join second).join leaf).IsBelow here directory := by
  simp only [confines, Bool.and_eq_true, Bool.not_eq_true'] at confined
  obtain ⟨⟨relative, relative'⟩, stays⟩ := confined
  obtain ⟨further, walked⟩ : ∃ further, _ = further ++ (directory.placeFrom here).reverse :=
    foldl_step_of_stays [] _ stays
  rw [plain.isBelow_join_iff]
  refine ⟨further.reverse, ?_⟩
  rw [← List.reverse_inj, placeFrom_join_join relative relative', List.reverse_append,
    List.reverse_reverse]
  exact walked

/-- Names that lead to a place below a directory, with a plain name after them, stay below
the directory, unless the last name of the directory is among them. -/
theorem confines_of_isBelow (plain : Plain leaf) {last : String}
    (placed : directory.placeFrom here = above ++ [last])
    (fresh : last ∉ walk first second)
    (below : (((directory.join first).join second).join leaf).IsBelow here directory) :
    confines first second = true := by
  obtain ⟨further, reached⟩ := plain.isBelow_join_iff.mp below
  have back : last :: above.reverse <:+
      (((directory.join first).join second).placeFrom here).reverse := by
    refine ⟨further.reverse, ?_⟩
    rw [reached, placed]
    simp
  have along : ∀ name ∈ (⟨first⟩ : Path).names, name ∈ walk first second :=
    fun name => List.mem_append_left _
  have along' : ∀ name ∈ (⟨second⟩ : Path).names, name ∈ walk first second :=
    fun name => List.mem_append_right _
  have strayed (leads : confines first second = false) :
      Strayed above.reverse (· ∈ walk first second)
        (((directory.join first).join second).placeFrom here).reverse := by
    -- The last absolute name, or the walk along both when there is none, has left the
    -- directory.
    cases absolute' : (⟨second⟩ : Path).isAbsolute with
    | true => exact strayed_of_absolute _ absolute' along'
    | false =>
      cases absolute : (⟨first⟩ : Path).isAbsolute with
      | true => exact (strayed_of_absolute _ absolute along).join along'
      | false =>
        have leaves : staysFrom 0 (walk first second) = false := by
          simpa [confines, absolute, absolute'] using leads
        rw [placeFrom_join_join absolute absolute', placed, List.reverse_append]
        exact strayed_of_leaves [] last leaves nofun fun _ present => present
  cases leads : confines first second with
  | true => rfl
  | false => exact absurd ((strayed leads).seen_of_suffix back) fresh

end Joined

end Path

end StableFleet
