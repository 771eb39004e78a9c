/-!
# Runs of code points

A run starts at one code point, ends at another and takes every one or every
second code point between them. Character properties are lists of runs.
-/

namespace StableFleet.Text

/-- The code points `first`, `first + step`, … up to `last`. -/
structure CodeRange where
  first : Nat
  last : Nat
  step : Nat
  deriving Repr, DecidableEq

namespace CodeRange

/-- Whether a code point belongs to the run. -/
def holds (run : CodeRange) (code : Nat) : Bool :=
  run.first ≤ code && code ≤ run.last && (code - run.first) % run.step == 0

/-- Whether some run of a list holds the code point. -/
def anyHolds (runs : List CodeRange) (code : Nat) : Bool :=
  runs.any (·.holds code)

end CodeRange

end StableFleet.Text
