import StableFleet.Text.Cut

/-!
# Paths

A path is a text whose names are separated by slashes. Joining a name to a path
puts it below the path, unless the name is itself an absolute path: then it
replaces the path. What a path denotes is found by going up at each `..` and
staying at each `.`.
-/

namespace StableFleet

/-- A path as it is written. -/
structure Path where
  text : String
  deriving Repr, DecidableEq, Inhabited

namespace Path

/-- Whether a path starts at the root. -/
def isAbsolute (path : Path) : Bool := path.text.toList.head? == some '/'

/-- The path of a name below a path; an absolute name stands for itself. -/
def join (base : Path) (name : String) : Path :=
  if name.toList.head? = some '/' || base.text.isEmpty then ⟨name⟩
  else if base.text.toList.getLast? = some '/' then ⟨base.text ++ name⟩
  else ⟨base.text ++ "/" ++ name⟩

/-- The pieces of a path between its slashes. -/
def pieces (path : Path) : List String :=
  (Text.pieces '/' path.text.toList).map String.ofList

/-- The names of a path, without the pieces that stay where they are. -/
def names (path : Path) : List String :=
  path.pieces.filter fun name => !name.isEmpty && name != "."

/-- Whether a path asks for a directory: it ends with a slash or a dot. -/
def asksDirectory (path : Path) : Bool :=
  match path.pieces.getLast? with
  | some last => last.isEmpty || last == "."
  | none => false

/-- The path of the directory that holds what a path denotes. A path without a
name has none. -/
def parent? (path : Path) : Option Path :=
  match path.names with
  | [] => none
  | names =>
    let above := "/".intercalate names.dropLast
    some ⟨if path.isAbsolute then "/" ++ above else above⟩

/-- Goes one name further from a place, given by its names from the last to the
first. The root has no place above it. -/
def step (place : List String) (name : String) : List String :=
  if name = ".." then place.tail else name :: place

/-- The place that a path denotes when it starts from another place. -/
def placeFrom (start : List String) (path : Path) : List String :=
  (path.names.foldl step (if path.isAbsolute then [] else start.reverse)).reverse

/-- An absolute name stands for itself wherever it is joined. -/
theorem join_of_absolute (base : Path) {name : String} (absolute : name.toList.head? = some '/') :
    base.join name = ⟨name⟩ := by
  simp [join, absolute]

end Path

end StableFleet
