import StableFleet.Json.Number

/-!
# Documents

A document is a value. Texts are kept as bytes, so that a value can be looked at
before it is known whether its texts are well-formed; the members of an object
stand in the order of the document, and a key may stand there twice.
-/

namespace StableFleet.Json

/-- A value of a document. -/
inductive Value
  | null
  | bool (flag : Bool)
  | number (written : Number)
  | text (bytes : Bytes)
  | array (items : List Value)
  | object (members : List (Bytes × Value))
  deriving Repr, Inhabited

namespace Value

/-- A text as a value. -/
def ofText (content : String) : Value := .text (Bytes.ofText content)

/-- A natural number as a value. -/
def ofNat (natural : Nat) : Value := .number (.ofNat natural)

/-- An object with the given members. -/
def ofMembers (members : List (String × Value)) : Value :=
  .object (members.map fun member => (Bytes.ofText member.1, member.2))

/-- A list of texts as a value. -/
def ofTexts (texts : List String) : Value := .array (texts.map ofText)

/-- The members of an object; other values have none. -/
def members : Value → List (Bytes × Value)
  | .object members => members
  | _ => []

/-- The first member of an object with a key. -/
def member? (value : Value) (key : String) : Option Value :=
  (value.members.find? fun member => member.1 = Bytes.ofText key).map (·.2)

/-- Whether a value is an object. -/
def isObject : Value → Bool
  | .object _ => true
  | _ => false

/-- The well-formed text that a value is, if it is one. -/
def text? : Value → Option String
  | .text bytes => Bytes.text? bytes
  | _ => none

end Value

end StableFleet.Json
