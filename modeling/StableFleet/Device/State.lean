import StableFleet.Device.Label

/-!
# States of devices

A device has a state, and states are ranked by how severe they are. A group of
devices is in the most severe state of its members; states in which someone has
to look at a device count as one.
-/

namespace StableFleet

/-- The state of a device under test, as the scheduler sees it. -/
inductive DutState
  | unknown
  | ready
  | needsRepair
  | repairFailed
  | needsManualRepair
  | needsReplacement
  | needsDeploy
  | needsManualAttention
  | reserved
  deriving Repr, DecidableEq, Inhabited

instance : Label DutState where
  kind := "DutState"
  unset := .unknown
  others := [.ready, .needsRepair, .repairFailed, .needsManualRepair, .needsReplacement,
    .needsDeploy, .needsManualAttention, .reserved]
  name
    | .unknown => "unknown"
    | .ready => "ready"
    | .needsRepair => "needs_repair"
    | .repairFailed => "repair_failed"
    | .needsManualRepair => "needs_manual_repair"
    | .needsReplacement => "needs_replacement"
    | .needsDeploy => "needs_deploy"
    | .needsManualAttention => "needs_manual_attention"
    | .reserved => "reserved"
  complete label := by cases label <;> simp
  distinct := by simp

namespace DutState

/-- How severe a state is. -/
def severity : DutState → Nat
  | unknown => 0
  | ready => 1
  | needsRepair => 2
  | repairFailed => 3
  | needsManualRepair | needsReplacement | needsDeploy | needsManualAttention => 4
  | reserved => 5

/-- The state that stands for all in which someone has to look at a device, and
every other state itself. -/
def canonical : DutState → DutState
  | needsManualRepair | needsReplacement | needsDeploy => needsManualAttention
  | state => state

/-- The state of a text; one that is no name of a state is not known. -/
def ofText (text : String) : DutState := (Label.read? text).getD .unknown

/-- The more severe of two states, the second if neither is. -/
def worse (first second : DutState) : DutState :=
  if first.severity ≤ second.severity then second else first

/-- The state of a group of devices. -/
def aggregate (states : List DutState) : DutState := (states.foldl worse .unknown).canonical

/-- A state is as severe as the state it counts as. -/
@[simp] theorem severity_canonical (state : DutState) : state.canonical.severity = state.severity := by
  cases state <;> rfl

/-- Two states count as one exactly when they are equally severe. -/
theorem canonical_eq_iff (left right : DutState) :
    left.canonical = right.canonical ↔ left.severity = right.severity := by
  cases left <;> cases right <;> decide

/-- The worse of two states is as severe as the more severe one. -/
theorem severity_worse (first second : DutState) :
    (worse first second).severity = max first.severity second.severity := by
  unfold worse
  split <;> omega

end DutState

end StableFleet
