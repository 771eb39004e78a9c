import StableFleet.Json.Value

/-!
# Reading documents

A document is read from bytes. Blanks are spaces, tabs and line ends; a text may
hold any byte but a control, with escapes; numbers have no superfluous zeros;
nothing may follow the value but blanks. Nesting has no bound here, and a text
need not be well-formed: readers of values decide what they admit.
-/

namespace StableFleet.Json

/-- Whether a byte may stand between the parts of a document. -/
def isBlank (byte : UInt8) : Bool :=
  byte = ascii ' ' || byte = ascii '\t' || byte = ascii '\n' || byte = ascii '\r'

/-- The bytes after any blanks. -/
def skipBlanks (bytes : Bytes) : Bytes := bytes.dropWhile isBlank

/-- A part of a text as written: a byte, or a unit of sixteen bits given by its
number. -/
inductive Piece
  | byte (byte : UInt8)
  | unit (unit : Nat)
  deriving Repr, DecidableEq

/-- The number that a hexadecimal digit denotes. -/
def hexValue? (byte : UInt8) : Option Nat :=
  if isDigit byte then some (digitValue byte)
  else if ascii 'a' ≤ byte && byte ≤ ascii 'f' then some (byte.toNat - 87)
  else if ascii 'A' ≤ byte && byte ≤ ascii 'F' then some (byte.toNat - 55)
  else none

/-- The number that four hexadecimal digits denote. -/
def hexUnit? (first second third fourth : UInt8) : Option Nat := do
  return (((← hexValue? first) * 16 + (← hexValue? second)) * 16 + (← hexValue? third)) * 16 +
    (← hexValue? fourth)

/-- The byte that a short escape stands for. -/
def shortEscape? (byte : UInt8) : Option UInt8 :=
  if byte = ascii '"' || byte = ascii '\\' || byte = ascii '/' then some byte
  else if byte = ascii 'b' then some 0x08
  else if byte = ascii 'f' then some 0x0C
  else if byte = ascii 'n' then some 0x0A
  else if byte = ascii 'r' then some 0x0D
  else if byte = ascii 't' then some 0x09
  else none

/-- The pieces of a text up to its closing quote, and what follows the quote. -/
def readPieces? : Bytes → Option (List Piece × Bytes)
  | [] => none
  | byte :: rest =>
    if byte = ascii '"' then some ([], rest)
    else if byte = ascii '\\' then
      match rest with
      | [] => none
      | escape :: rest =>
        if escape = ascii 'u' then
          match rest with
          | first :: second :: third :: fourth :: rest =>
            match hexUnit? first second third fourth with
            | some unit => (readPieces? rest).map fun parts => (.unit unit :: parts.1, parts.2)
            | none => none
          | _ => none
        else match shortEscape? escape with
          | some plain => (readPieces? rest).map fun parts => (.byte plain :: parts.1, parts.2)
          | none => none
    else if byte < 0x20 then none
    else (readPieces? rest).map fun parts => (.byte byte :: parts.1, parts.2)

/-- Whether a unit is the first half of a pair. -/
def isHighUnit (unit : Nat) : Bool := 0xD800 ≤ unit && unit ≤ 0xDBFF

/-- Whether a unit is the second half of a pair. -/
def isLowUnit (unit : Nat) : Bool := 0xDC00 ≤ unit && unit ≤ 0xDFFF

/-- The bytes of a unit that stands alone. A half of a pair gives bytes that no
well-formed text has. -/
def unitBytes (unit : Nat) : Bytes :=
  if unit < 0x80 then [UInt8.ofNat unit]
  else if unit < 0x800 then [UInt8.ofNat (0xC0 + unit / 64), UInt8.ofNat (0x80 + unit % 64)]
  else [UInt8.ofNat (0xE0 + unit / 4096), UInt8.ofNat (0x80 + unit / 64 % 64),
    UInt8.ofNat (0x80 + unit % 64)]

/-- The bytes of the character that two halves make. -/
def pairBytes (high low : Nat) : Bytes :=
  let code := 0x10000 + (high - 0xD800) * 0x400 + (low - 0xDC00)
  [UInt8.ofNat (0xF0 + code / 262144), UInt8.ofNat (0x80 + code / 4096 % 64),
    UInt8.ofNat (0x80 + code / 64 % 64), UInt8.ofNat (0x80 + code % 64)]

/-- The bytes that the pieces of a text spell. -/
def spell : List Piece → Bytes
  | [] => []
  | .byte byte :: rest => byte :: spell rest
  | .unit high :: .unit low :: rest =>
    if isHighUnit high && isLowUnit low then pairBytes high low ++ spell rest
    else unitBytes high ++ spell (.unit low :: rest)
  | .unit unit :: rest => unitBytes unit ++ spell rest

/-- The text whose opening quote has been read, and what follows it. -/
def readText? (bytes : Bytes) : Option (Bytes × Bytes) :=
  (readPieces? bytes).map fun parts => (spell parts.1, parts.2)

namespace Value

mutual

/-- The value at the front of some bytes, after blanks, and what follows it. The
bound limits how many parts are read. -/
def readWithin? : Nat → Bytes → Option (Value × Bytes)
  | 0, _ => none
  | bound + 1, bytes =>
    match skipBlanks bytes with
    | [] => none
    | byte :: rest =>
      if byte = ascii '\x7b' then
        match skipBlanks rest with
        | [] => none
        | next :: after =>
          if next = ascii '\x7d' then some (.object [], after)
          else (readMembers? bound (next :: after)).map fun parts => (.object parts.1, parts.2)
      else if byte = ascii '[' then
        match skipBlanks rest with
        | [] => none
        | next :: after =>
          if next = ascii ']' then some (.array [], after)
          else (readItems? bound (next :: after)).map fun parts => (.array parts.1, parts.2)
      else if byte = ascii '"' then
        (readText? rest).map fun parts => (.text parts.1, parts.2)
      else if byte = ascii 'n' then
        (Text.after? [ascii 'u', ascii 'l', ascii 'l'] rest).map fun after => (.null, after)
      else if byte = ascii 't' then
        (Text.after? [ascii 'r', ascii 'u', ascii 'e'] rest).map fun after => (.bool true, after)
      else if byte = ascii 'f' then
        (Text.after? [ascii 'a', ascii 'l', ascii 's', ascii 'e'] rest).map fun after =>
          (.bool false, after)
      else
        (Number.read? (byte :: rest)).map fun parts => (.number parts.1, parts.2)

/-- The items of an array up to its closing bracket, and what follows it. -/
def readItems? : Nat → Bytes → Option (List Value × Bytes)
  | 0, _ => none
  | bound + 1, bytes =>
    match readWithin? bound bytes with
    | none => none
    | some (item, rest) =>
      match skipBlanks rest with
      | [] => none
      | next :: after =>
        if next = ascii ',' then
          (readItems? bound after).map fun parts => (item :: parts.1, parts.2)
        else if next = ascii ']' then some ([item], after)
        else none

/-- The members of an object up to its closing brace, and what follows it. -/
def readMembers? : Nat → Bytes → Option (List (Bytes × Value) × Bytes)
  | 0, _ => none
  | bound + 1, bytes =>
    match skipBlanks bytes with
    | [] => none
    | quote :: rest =>
      if quote = ascii '"' then
        match readText? rest with
        | none => none
        | some (key, rest) =>
          match skipBlanks rest with
          | [] => none
          | colon :: rest =>
            if colon = ascii ':' then
              match readWithin? bound rest with
              | none => none
              | some (value, rest) =>
                match skipBlanks rest with
                | [] => none
                | next :: after =>
                  if next = ascii ',' then
                    (readMembers? bound after).map fun parts => ((key, value) :: parts.1, parts.2)
                  else if next = ascii '\x7d' then some ([(key, value)], after)
                  else none
            else none
      else none

end

/-- The value of a whole document. Each part that is read takes a byte at least
or opens a list whose first part does, so the bound is never reached. -/
def parse? (bytes : Bytes) : Option Value :=
  match readWithin? (2 * bytes.length + 2) bytes with
  | some (value, rest) => if (skipBlanks rest).isEmpty then some value else none
  | none => none

end Value

end StableFleet.Json
