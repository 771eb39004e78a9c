import StableFleet.Archive.Reader
import StableFleet.Text.Decimal

/-!
# Finding a firmware bundle

A bundle is looked for at the milestone asked for, then at the milestones after
it and then at those before it. At each milestone there are two variants, which
are probed side by side; both are probed in any case, and of those that exist
the first in order is taken, whichever answered first.
-/

namespace StableFleet

/-- What a bundle is looked for by. -/
structure BundleQuery where
  board : String
  milestone : UInt32
  tip : UInt64
  branch : UInt64
  suffix : String
  deriving Repr, DecidableEq

namespace BundleQuery

/-- How many milestones are looked at after the one asked for. -/
def ahead : Nat := 5

/-- How many milestones are looked at before the one asked for. -/
def behind : Nat := 40

/-- The milestones to look at, in order, with none below zero or beyond a word of
32 bits. -/
def milestones (query : BundleQuery) : List Nat :=
  let asked := query.milestone.toNat
  asked ::
    (((List.range ahead).map fun distance => asked + (distance + 1)).filter (· < UInt32.size) ++
      ((List.range (min behind asked)).map fun distance => asked - (distance + 1)))

/-- The variants of a bundle, in order. -/
def variants : List String := ["release", "firmware"]

/-- Where the archive has one variant of a bundle. -/
def candidate (query : BundleQuery) (root : String) (milestone : Nat) (variant : String) : String :=
  root ++ "/" ++ query.board ++ "-" ++ variant ++ "/R" ++
    String.ofList (Text.Decimal.digits milestone) ++ "-" ++ Text.Decimal.ofWord query.tip ++ "." ++
    Text.Decimal.ofWord query.branch ++ ".0/" ++ query.suffix

/-- The places to look at, milestone by milestone. -/
def candidates (query : BundleQuery) (root : String) : List (List String) :=
  query.milestones.map fun milestone => variants.map (query.candidate root milestone)

end BundleQuery

namespace ArchiveReader

/-- Whether the archive has an object. An archive that cannot tell counts as not
having it; an operation that was told to stop does not ask. -/
def probe (reader : ArchiveReader) (candidate : String) : Attempt Bool := do
  Attempt.checkpoint
  ExceptT.mk do
    match ← Flow.ask (.probe reader.backend candidate) with
    | .ok found => return .ok found
    | .error _ => return .ok false

/-- Probes places in turn, whatever the answers, and then gives them or the first
failure. -/
def probeInTurn (reader : ArchiveReader) : List String → Attempt (List Bool)
  | [] => return []
  | candidate :: candidates => ExceptT.mk do
    let first ← (reader.probe candidate).run
    let others ← (reader.probeInTurn candidates).run
    return do return (← first) :: (← others)

/-- Probes the places of one milestone, of which the first or the last may be the
first to be served; the answers stand in the order of the places. -/
def probeAll (reader : ArchiveReader) (lastFirst : Bool) (candidates : List String) :
    Attempt (List Bool) :=
  if lastFirst then List.reverse <$> reader.probeInTurn candidates.reverse
  else reader.probeInTurn candidates

/-- The first place of a milestone that has the bundle. -/
def firstFound? (candidates : List String) (found : List Bool) : Option String :=
  ((candidates.zip found).find? (·.2)).map (·.1)

/-- Looks at the milestones in turn, each with the order in which its probes are
served. -/
def searchGroups (reader : ArchiveReader) :
    (lastFirst : Nat → Bool) → List (List String) → Attempt (Option String)
  | _, [] => return none
  | lastFirst, group :: groups => do
    Attempt.checkpoint
    match firstFound? group (← reader.probeAll (lastFirst 0) group) with
    | some path => return path
    | none => reader.searchGroups (fun later => lastFirst (later + 1)) groups

/-- Where the archive has the bundle that comes first in order. The probes of
each milestone are served in the order of the places unless the last of them is
said to come first. -/
def locateBundle (reader : ArchiveReader) (query : BundleQuery)
    (lastFirst : Nat → Bool := fun _ => false) : Attempt String := do
  let groups := query.candidates reader.root
  match ← reader.searchGroups lastFirst groups with
  | some path => return path
  | none => throw (.notFound (groups.head?.bind List.head? |>.getD ""))

end ArchiveReader

end StableFleet
