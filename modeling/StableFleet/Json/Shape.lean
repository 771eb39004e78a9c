import StableFleet.Json.Value
import StableFleet.Table
import StableFleet.Text.Decimal

/-!
# Shapes of values

A shape takes a typed value out of a document or says why the document does not
fit. A record is written as an object, or as an array of its fields in order. A
field that is missing keeps its default; a member that names no field is passed
over without looking at it; a field named twice does not fit.
-/

namespace StableFleet.Json

/-- Why a document does not fit a shape: it is built otherwise, or a text is not
one of the names that it should be one of. -/
inductive Misfit
  | shape
  | unknownName (enumeration text : String)
  deriving Repr, DecidableEq

/-- What a value holds when it is read as something, or why it does not fit. -/
abbrev Shape (α : Type) := Value → Except Misfit α

namespace Shape

variable {α ρ : Type}

/-- A text. -/
def text : Shape String
  | .text bytes =>
    match Bytes.text? bytes with
    | some content => .ok content
    | none => .error .shape
  | _ => .error .shape

/-- A truth value. -/
def bool : Shape Bool
  | .bool flag => .ok flag
  | _ => .error .shape

/-- A natural number below a bound of at most 64 bits. -/
def naturalBelow (bound : Nat) : Shape Nat
  | .number number =>
    match number.natural? with
    | some natural => if natural < bound then .ok natural else .error .shape
    | none => .error .shape
  | _ => .error .shape

/-- A word of 64 bits. -/
def word64 : Shape UInt64 := fun value =>
  (naturalBelow UInt64.size value).map UInt64.ofNat

/-- A word of 32 bits. -/
def word32 : Shape UInt32 := fun value =>
  (naturalBelow UInt32.size value).map UInt32.ofNat

/-- The items of an array, each of one shape. -/
def items (item : Shape α) : List Value → Except Misfit (List α)
  | [] => .ok []
  | value :: values => do
    let first ← item value
    return first :: (← items item values)

/-- An array of items of one shape. -/
def list (item : Shape α) : Shape (List α)
  | .array values => items item values
  | _ => .error .shape

/-- The members of an object put into a table, each of one shape. -/
def entries (item : Shape α) : Table α → List (Bytes × Value) → Except Misfit (Table α)
  | table, [] => .ok table
  | table, (key, value) :: members =>
    match Bytes.text? key with
    | none => .error .shape
    | some key => do entries item (table.insert key (← item value)) members

/-- An object whose values have one shape; the last of members with the same key
counts. -/
def table (item : Shape α) : Shape (Table α)
  | .object members => entries item Table.empty members
  | _ => .error .shape

/-- A value, or null for the absence of one. -/
def nullable (item : Shape α) : Shape (Option α)
  | .null => .ok none
  | value => (item value).map some

/-- A field of a record: its name, and how a value changes the record. -/
structure Field (ρ : Type) where
  name : String
  put : Value → ρ → Except Misfit ρ

/-- A field that holds what a shape finds. -/
def field (name : String) (shape : Shape α) (set : ρ → α → ρ) : Field ρ :=
  ⟨name, fun value record => (shape value).map (set record)⟩

/-- Puts members into a record. The names that have been put before may not
occur again. -/
def putMembers (fields : List (Field ρ)) :
    List String → ρ → List (Bytes × Value) → Except Misfit ρ
  | _, record, [] => .ok record
  | seen, record, (key, value) :: members =>
    match Bytes.text? key with
    | none => .error .shape
    | some key =>
      match fields.find? (fun field => field.name = key) with
      | none => putMembers fields seen record members
      | some field =>
        if key ∈ seen then .error .shape
        else do putMembers fields (key :: seen) (← field.put value record) members

/-- Puts the items of an array into the fields of a record in order. -/
def putItems : List (Field ρ) → ρ → List Value → Except Misfit ρ
  | _, record, [] => .ok record
  | [], _, _ :: _ => .error .shape
  | field :: fields, record, value :: values => do
    putItems fields (← field.put value record) values

/-- A record with the given fields that starts from defaults. -/
def record (fields : List (Field ρ)) (default : ρ) : Shape ρ
  | .object members => putMembers fields [] default members
  | .array values => putItems fields default values
  | _ => .error .shape

end Shape

end StableFleet.Json
