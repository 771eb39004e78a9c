import StableFleet.Json.Value

/-!
# Canonical values

A reader that looks at a whole document before it takes anything from it asks
for a canonical value: nesting is bounded, every text is well-formed, every
number fits double precision, and each object has its keys once and in order.
Of members with the same key the last one counts.
-/

namespace StableFleet.Json.Value

/-- Members in key order with a value put under a key. -/
def putMember (key : Bytes) (value : Value) : List (Bytes × Value) → List (Bytes × Value)
  | [] => [(key, value)]
  | (other, old) :: rest =>
    if key < other then (key, value) :: (other, old) :: rest
    else if key = other then (key, value) :: rest
    else (other, old) :: putMember key value rest

/-- The members in key order, the last of each key. -/
def sortMembers (members : List (Bytes × Value)) : List (Bytes × Value) :=
  members.foldl (fun sorted member => putMember member.1 member.2 sorted) []

/-- Whether bytes are a well-formed text. -/
def isText (bytes : Bytes) : Bool := (Bytes.text? bytes).isSome

mutual

/-- The canonical form of a value that may hold a number of levels below it. -/
def canonicalWithin? (levels : Nat) : Value → Option Value
  | .null => some .null
  | .bool flag => some (.bool flag)
  | .number written => if written.inRange then some (.number written) else none
  | .text bytes => if isText bytes then some (.text bytes) else none
  | .array items =>
    match levels with
    | 0 => none
    | levels + 1 => (canonicalItems? levels items).map .array
  | .object members =>
    match levels with
    | 0 => none
    | levels + 1 =>
      (canonicalMembers? levels members).map fun members => .object (sortMembers members)

/-- The canonical forms of the items of an array. -/
def canonicalItems? (levels : Nat) : List Value → Option (List Value)
  | [] => some []
  | item :: items =>
    match canonicalWithin? levels item, canonicalItems? levels items with
    | some item, some items => some (item :: items)
    | _, _ => none

/-- The members of an object with their values in canonical form. -/
def canonicalMembers? (levels : Nat) : List (Bytes × Value) → Option (List (Bytes × Value))
  | [] => some []
  | (key, value) :: members =>
    if isText key then
      match canonicalWithin? levels value, canonicalMembers? levels members with
      | some value, some members => some ((key, value) :: members)
      | _, _ => none
    else none

end

/-- How many arrays and objects may stand within each other. -/
def nestingLimit : Nat := 127

/-- The canonical form of a value, if it has one. -/
def canonical? (value : Value) : Option Value := canonicalWithin? nestingLimit value

end StableFleet.Json.Value
