import StableFleet.Dimensions.Projection
import StableFleet.Error
import StableFleet.Json.Canonical
import StableFleet.Json.Complaint
import StableFleet.Json.Reader
import StableFleet.Json.Shape
import StableFleet.TextSet

/-!
# Scheduling units

A scheduling unit is a group of devices that are used together. Its dimensions
name the unit, list the values of its members under a few keys, keep the values
that every member has under a few others, and drop everything else. Where
members have the same value, the later ones are told apart by a number.
-/

namespace StableFleet

open Json (Complaint Shape Value)

/-- A group of devices. -/
structure SchedulingUnit where
  name : String := ""
  members : List String := []
  pools : List String := []
  deriving Repr, DecidableEq, Inhabited

namespace SchedulingUnit

/-- The shape of a unit. -/
def shape : Shape SchedulingUnit :=
  Shape.record [
    Shape.field "name" Shape.text fun group name => { group with name := name },
    Shape.field "members" (Shape.list Shape.text) fun group members =>
      { group with members := members },
    Shape.field "pools" (Shape.list Shape.text) fun group pools => { group with pools := pools }] {}

/-- The failure of bytes that are no unit. -/
def undecodable (reason : String) : Error :=
  .decode ("cannot decode scheduling unit: " ++ reason)

/-- The unit that some bytes hold. -/
def parse [Complaint] (bytes : Bytes) : Except Error SchedulingUnit :=
  match (Value.parse? bytes).bind Value.canonical? with
  | none => .error (undecodable (Complaint.about "value" bytes))
  | some value =>
    if value.isObject then
      (shape value).mapError fun _ =>
        undecodable (Complaint.about "value of a scheduling unit" bytes)
    else .error (undecodable "expected a JSON object")

/-- A value with a number behind it. -/
def numbered (value : String) (number : Nat) : String :=
  value ++ "_" ++ Projection.numeral number

/-- The first of some numbered values, from a number on, that is not among given
texts; the bound limits how many are tried. -/
def freeValue (used : List String) (value : String) : (bound number : Nat) → String
  | 0, number => numbered value number
  | bound + 1, number =>
    if numbered value number ∈ used then freeValue used value bound (number + 1)
    else numbered value number

/-- Values with repetitions numbered, after some values have been taken. As there
are more numbers than texts to keep clear of, a free one is always found. -/
def distinctFrom (values taken : List String) : List String → List String
  | [] => []
  | value :: rest =>
    if value ∈ taken then
      let used := values ++ taken
      let free := freeValue used value used.length 2
      free :: distinctFrom values (free :: taken) rest
    else value :: distinctFrom values (value :: taken) rest

/-- Values with repetitions numbered from two on, clear of all the values. -/
def distinct (values : List String) : List String := distinctFrom values [] values

/-- The values that every member has under a key, in ascending order. -/
def common (children : List Dimensions) (key : String) : List String :=
  match children with
  | [] => []
  | first :: others =>
    (TextSet.ofList ((first.get? key).getD [])).toList.filter fun value =>
      others.all fun child => ((child.get? key).getD []).contains value

/-- The state of a device by its dimensions. -/
def stateOf (child : Dimensions) : DutState :=
  match child.get? "dut_state" with
  | some (value :: _) => DutState.ofText value
  | _ => .unknown

/-- The keys under which the values of all members are listed, with the keys
that the unit has them under. -/
def listedKeys : List (String × String) :=
  [("label-board", "label-board"), ("label-model", "label-model"), ("dut_name", "label-managed_dut")]

/-- The keys under which the values that all members have are kept. -/
def commonKeys : List String := ["label-device-stable"]

/-- The values of all members under a key. -/
def listed (children : List Dimensions) (key : String) : List String :=
  distinct (children.flatMap fun child => (child.get? key).getD [])

/-- The dimensions of a unit with the given members. -/
def dimensions (group : SchedulingUnit) (children : List Dimensions) : Dimensions :=
  Dimensions.clean <| Table.ofList <|
    [("dut_name", [group.name]),
      ("dut_id", [group.name]),
      ("label-pool", group.pools),
      ("label-dut_count", [Projection.numeral children.length]),
      ("label-multiduts", [Projection.trueText]),
      ("dut_state", [Label.name (DutState.aggregate (children.map stateOf))])] ++
    listedKeys.map (fun keys => (keys.2, listed children keys.1)) ++
    commonKeys.map fun key => (key, common children key)

end SchedulingUnit

end StableFleet
