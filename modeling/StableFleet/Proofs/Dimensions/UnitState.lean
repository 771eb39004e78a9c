import StableFleet.Dimensions.SchedulingUnit
import StableFleet.Proofs.Dimensions.Values

/-!
# The state of a unit

A group of devices is in the state that the most severe of its members counts as. Going
through states leaves the last of those that are the most severe, but equally severe states
count as one, so it does not matter which of them is left: the state of a group is told by
how severe it is. That is the least bound of how severe its members are, so it depends on
nothing but which states there are, and may be found part by part.

A unit shows the state of the group of its members. The state of a member is read from the
first value that it shows for it.
-/

namespace StableFleet

namespace DutState

/-- Going through states leaves one within a bound exactly when all of them are, the first
included. -/
theorem severity_foldl_worse_le_iff {states : List DutState} {start : DutState} {bound : Nat} :
    (states.foldl worse start).severity ≤ bound ↔
      start.severity ≤ bound ∧ ∀ state ∈ states, state.severity ≤ bound := by
  induction states generalizing start with
  | nil => simp
  | cons state rest inductionHypothesis =>
    rw [List.foldl_cons, inductionHypothesis, severity_worse, Nat.max_le, and_assoc,
      List.forall_mem_cons]

/-- A group is within a bound exactly when its members are. -/
theorem severity_aggregate_le_iff {states : List DutState} {bound : Nat} :
    (aggregate states).severity ≤ bound ↔ ∀ state ∈ states, state.severity ≤ bound := by
  rw [aggregate, severity_canonical, severity_foldl_worse_le_iff]
  exact and_iff_right (Nat.zero_le bound)

/-- No member is more severe than its group. -/
theorem severity_le_aggregate (states : List DutState) :
    ∀ state ∈ states, state.severity ≤ (aggregate states).severity :=
  severity_aggregate_le_iff.mp (Nat.le_refl _)

/-- A state that another one counts as counts as itself. -/
@[simp] theorem canonical_canonical (state : DutState) :
    state.canonical.canonical = state.canonical :=
  (canonical_eq_iff _ _).mpr (severity_canonical state)

/-- Groups whose members are within the same bounds are in the same state. -/
theorem aggregate_eq_of_bounds {states others : List DutState}
    (same : ∀ bound, (∀ state ∈ states, state.severity ≤ bound) ↔
      ∀ state ∈ others, state.severity ≤ bound) : aggregate states = aggregate others := by
  have severities : (aggregate states).severity = (aggregate others).severity := by
    apply Nat.le_antisymm
    · exact severity_aggregate_le_iff.mpr ((same _).mpr (severity_le_aggregate others))
    · exact severity_aggregate_le_iff.mpr ((same _).mp (severity_le_aggregate states))
  rw [aggregate, aggregate, severity_canonical, severity_canonical] at severities
  exact (canonical_eq_iff _ _).mpr severities

/-- A group with the same states, in whatever order and however often, is in the same
state. -/
theorem aggregate_of_same {states others : List DutState}
    (same : ∀ state, state ∈ states ↔ state ∈ others) : aggregate states = aggregate others :=
  aggregate_eq_of_bounds fun bound => forall_congr' fun state => by rw [same]

/-- The state of two groups together is that of their states. -/
theorem aggregate_append (states others : List DutState) :
    aggregate (states ++ others) = aggregate [aggregate states, aggregate others] := by
  refine aggregate_eq_of_bounds fun bound => ?_
  rw [List.forall_mem_append, List.forall_mem_cons, List.forall_mem_singleton,
    severity_aggregate_le_iff, severity_aggregate_le_iff]

/-- The state of a group: it counts as itself, and is not known if there are no members. A
member is as severe, and none is more severe. -/
structure Severest (states : List DutState) (state : DutState) : Prop where
  canonical : state.canonical = state
  empty : states = [] → state = .unknown
  attained : states ≠ [] → ∃ member ∈ states, member.severity = state.severity
  bound : ∀ member ∈ states, member.severity ≤ state.severity

theorem severest_aggregate (states : List DutState) : Severest states (aggregate states) := by
  have bound := severity_le_aggregate states
  refine ⟨canonical_canonical _, fun nothing => nothing ▸ rfl, fun nonempty => ?_, bound⟩
  -- If all members were less severe, so would be the group.
  apply Classical.byContradiction
  intro unattained
  have less : ∀ member ∈ states, member.severity < (aggregate states).severity :=
    fun member present =>
      Nat.lt_of_le_of_ne (bound member present) fun same => unattained ⟨member, present, same⟩
  obtain ⟨first, present⟩ := List.exists_mem_of_ne_nil states nonempty
  have positive := less first present
  have lower : (aggregate states).severity ≤ (aggregate states).severity - 1 :=
    severity_aggregate_le_iff.mpr fun member present => Nat.le_sub_one_of_lt (less member present)
  omega

theorem name_ne_empty (state : DutState) : Label.name state ≠ "" := by
  cases state <;> decide

end DutState

namespace SchedulingUnit

open DutState (aggregate)

/-- The state that a member is in by the values that it shows: it is named by the first of
them. It is not known if there are none, or if the first is no name of a state. -/
inductive StateBy : List String → DutState → Prop
  | missing : StateBy [] .unknown
  | named (state : DutState) (others : List String) : StateBy (Label.name state :: others) state
  | unnamed (value : String) (others : List String)
      (strange : ∀ state : DutState, value ≠ Label.name state) :
      StateBy (value :: others) .unknown

theorem stateBy_stateOf (child : Dimensions) :
    StateBy (child.valuesAt "dut_state") (stateOf child) := by
  unfold stateOf Dimensions.valuesAt
  cases child.get? "dut_state" with
  | none => exact .missing
  | some values =>
    cases values with
    | nil => exact .missing
    | cons value others =>
      dsimp only [Option.getD_some, DutState.ofText]
      cases read : Label.read? (α := DutState) value with
      | some state =>
        obtain rfl := Label.read?_eq_some_iff.mp read
        exact .named state others
      | none =>
        refine .unnamed value others fun state named => ?_
        rw [named, Label.read?_name] at read
        cases read

/-- A unit shows one state, that of its members. -/
theorem valuesAt_state (group : SchedulingUnit) (children : List Dimensions) :
    (dimensions group children).valuesAt "dut_state" =
      [Label.name (aggregate (children.map stateOf))] := by
  have cleaned : (dimensions group children).valuesAt "dut_state" =
      Dimensions.cleanValues [Label.name (aggregate (children.map stateOf))] :=
    Dimensions.valuesAt_clean_ofList (by simp [listedKeys, commonKeys]) (by simp) (by decide)
  rw [cleaned]
  exact Dimensions.cleanValues_singleton (DutState.name_ne_empty _)

/-- The state of a group is that of the most severe of its members. It depends on the states
that there are among them alone, and groups may be put together by their states. A unit
shows the state of its members, each by its first value, where it is not known if there is
none or if that names no state. -/
theorem state_severest :
    (∀ states, DutState.Severest states (aggregate states)) ∧
    (∀ states others, (∀ state, state ∈ states ↔ state ∈ others) →
      aggregate states = aggregate others) ∧
    (∀ states others,
      aggregate (states ++ others) = aggregate [aggregate states, aggregate others]) ∧
    ∀ (group : SchedulingUnit) (children : List Dimensions),
      (dimensions group children).valuesAt "dut_state" =
        [Label.name (aggregate (children.map stateOf))] ∧
      ∀ child ∈ children, StateBy (child.valuesAt "dut_state") (stateOf child) := by
  refine ⟨DutState.severest_aggregate, fun _ _ => DutState.aggregate_of_same,
    DutState.aggregate_append, fun group children => ⟨valuesAt_state group children, ?_⟩⟩
  exact fun child _ => stateBy_stateOf child

example : aggregate [.ready, .needsDeploy, .needsRepair] = .needsManualAttention := rfl

end SchedulingUnit

end StableFleet
