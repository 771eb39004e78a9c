import StableFleet.Json.Value

/-!
# Writing documents

Documents are written with every item and member on a line of its own, indented
by one unit for each level; an empty array or object stays on its line. In a
text, quotes, backslashes and controls are escaped and every other byte is
written as it is.
-/

namespace StableFleet.Json

/-- The byte of a hexadecimal digit. -/
def hexDigit (digit : Nat) : UInt8 :=
  if digit < 10 then UInt8.ofNat (48 + digit) else UInt8.ofNat (87 + digit)

/-- The bytes that stand for one byte of a text. -/
def escapeByte (byte : UInt8) : Bytes :=
  if byte = ascii '"' then [ascii '\\', ascii '"']
  else if byte = ascii '\\' then [ascii '\\', ascii '\\']
  else if byte = 0x08 then [ascii '\\', ascii 'b']
  else if byte = 0x09 then [ascii '\\', ascii 't']
  else if byte = 0x0A then [ascii '\\', ascii 'n']
  else if byte = 0x0C then [ascii '\\', ascii 'f']
  else if byte = 0x0D then [ascii '\\', ascii 'r']
  else if byte < 0x20 then
    [ascii '\\', ascii 'u', ascii '0', ascii '0', hexDigit (byte.toNat / 16),
      hexDigit (byte.toNat % 16)]
  else [byte]

/-- A text between quotes. -/
def writeText (content : Bytes) : Bytes :=
  ascii '"' :: content.flatMap escapeByte ++ [ascii '"']

/-- The start of a line at some level. -/
def lineStart (indent : Bytes) (level : Nat) : Bytes :=
  ascii '\n' :: (List.replicate level indent).flatten

namespace Value

mutual

/-- A value at some level of nesting. -/
def writeAt (indent : Bytes) (level : Nat) : Value → Bytes
  | .null => [ascii 'n', ascii 'u', ascii 'l', ascii 'l']
  | .bool true => [ascii 't', ascii 'r', ascii 'u', ascii 'e']
  | .bool false => [ascii 'f', ascii 'a', ascii 'l', ascii 's', ascii 'e']
  | .number written => written.write
  | .text content => writeText content
  | .array [] => [ascii '[', ascii ']']
  | .array (item :: items) =>
    ascii '[' :: lineStart indent (level + 1) ++ writeAt indent (level + 1) item ++
      writeItems indent level items ++ lineStart indent level ++ [ascii ']']
  | .object [] => [ascii '\x7b', ascii '\x7d']
  | .object ((key, value) :: members) =>
    ascii '\x7b' :: lineStart indent (level + 1) ++ writeText key ++ [ascii ':', ascii ' '] ++
      writeAt indent (level + 1) value ++ writeMembers indent level members ++
      lineStart indent level ++ [ascii '\x7d']

/-- The items of an array after the first, each after a comma. -/
def writeItems (indent : Bytes) (level : Nat) : List Value → Bytes
  | [] => []
  | item :: items =>
    ascii ',' :: lineStart indent (level + 1) ++ writeAt indent (level + 1) item ++
      writeItems indent level items

/-- The members of an object after the first, each after a comma. -/
def writeMembers (indent : Bytes) (level : Nat) : List (Bytes × Value) → Bytes
  | [] => []
  | (key, value) :: members =>
    ascii ',' :: lineStart indent (level + 1) ++ writeText key ++ [ascii ':', ascii ' '] ++
      writeAt indent (level + 1) value ++ writeMembers indent level members

end

/-- A value indented by tabs. -/
def writeTabbed (value : Value) : Bytes := value.writeAt [ascii '\t'] 0

/-- A value indented by two spaces. -/
def writeSpaced (value : Value) : Bytes := value.writeAt [ascii ' ', ascii ' '] 0

end Value

end StableFleet.Json
