import StableFleet.Json.Shape

/-!
# Values that are read and written

A codec pairs the shape of a kind of value with how such a value is written. A
record is read and written by its members, each of which is a part of the record
under a name.
-/

namespace StableFleet.Json

/-- How a kind of value is read and how it is written. -/
structure Codec (α : Type) where
  shape : Shape α
  write : α → Value

/-- A part of a record: how it is read into the record and how it is written. -/
structure Member (ρ : Type) where
  field : Shape.Field ρ
  write : ρ → Value

namespace Codec

variable {α ρ : Type}

/-- Texts. -/
def text : Codec String := ⟨Shape.text, Value.ofText⟩

/-- Truth values. -/
def bool : Codec Bool := ⟨Shape.bool, .bool⟩

/-- Words of 32 bits. -/
def word32 : Codec UInt32 := ⟨Shape.word32, fun word => .ofNat word.toNat⟩

/-- Lists of values of one kind. -/
def list (item : Codec α) : Codec (List α) :=
  ⟨Shape.list item.shape, fun items => .array (items.map item.write)⟩

/-- Tables of values of one kind. -/
def table (item : Codec α) : Codec (Table α) where
  shape := Shape.table item.shape
  write entries := .ofMembers (entries.toList.map fun entry => (entry.1, item.write entry.2))

/-- A part of a record under a name. -/
def member (name : String) (part : Codec α) (get : ρ → α) (set : ρ → α → ρ) : Member ρ :=
  ⟨Shape.field name part.shape set, fun record => part.write (get record)⟩

/-- Records with the given members that start from defaults. -/
def record (members : List (Member ρ)) (default : ρ) : Codec ρ where
  shape := Shape.record (members.map (·.field)) default
  write value := .ofMembers (members.map fun member => (member.field.name, member.write value))

end Codec

end StableFleet.Json
