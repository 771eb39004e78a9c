import StableFleet.Text.Bytes
import StableFleet.Text.Cut
import StableFleet.Text.Decimal
import StableFleet.Url.Name

/-!
# Hosts of addresses

The host of an address is a name, a number address of version 4, or one of
version 6 in brackets. For schemes that are resolved by name, escapes are undone
first, the name is brought to its plain form, and some characters may not occur in
it.
-/

namespace StableFleet.Url

/-- Why a text is no address. -/
inductive Fault
  | noScheme
  | emptyHost
  | invalidHost
  | invalidPort
  | invalidIpv4
  | invalidIpv6
  deriving Repr, DecidableEq

/-- The wording of a fault. -/
def Fault.message : Fault → String
  | noScheme => "relative URL without a base"
  | emptyHost => "empty host"
  | invalidHost => "invalid international domain name"
  | invalidPort => "invalid port number"
  | invalidIpv4 => "invalid IPv4 address"
  | invalidIpv6 => "invalid IPv6 address"

/-- Whether a character may not occur in any host outside brackets. -/
def isForbiddenInHost (char : Char) : Bool :=
  ['\x00', '\t', '\n', '\r', ' ', '#', '/', ':', '<', '>', '?', '@', '[', '\\', ']', '^', '|'].contains
    char

/-- Whether a character may not occur in a host that is resolved by name. -/
def isForbiddenInName (char : Char) : Bool :=
  isForbiddenInHost char || char.toNat < 32 || char == '%' || char.toNat == 127

/-- The number that a hexadecimal digit denotes. -/
def hexValue? (char : Char) : Option Nat :=
  if char.isDigit then some (char.toNat - 48)
  else if 'a' ≤ char && char ≤ 'f' then some (char.toNat - 87)
  else if 'A' ≤ char && char ≤ 'F' then some (char.toNat - 55)
  else none

/-- Whether a character is a hexadecimal digit. -/
def isHexDigit (char : Char) : Bool := (hexValue? char).isSome

/-- The bytes of a text in which `%` and two hexadecimal digits stand for the
byte they denote. -/
def unescape : List Char → Bytes
  | [] => []
  | '%' :: high :: low :: rest =>
    match hexValue? high, hexValue? low with
    | some high, some low => UInt8.ofNat (16 * high + low) :: unescape rest
    | _, _ => Bytes.ofText "%" ++ unescape (high :: low :: rest)
  | char :: rest => Bytes.ofText (String.singleton char) ++ unescape rest

/-- The number of a part of an address of version 4: hexadecimal after `0x`,
octal after `0`, else decimal. -/
def ipv4Number? (part : List Char) : Option Nat :=
  let digits (base : Nat) (chars : List Char) : Option Nat :=
    chars.foldl (fun total char =>
      match total, hexValue? char with
      | some total, some digit => if digit < base then some (base * total + digit) else none
      | _, _ => none) (some 0)
  match part with
  | [] => none
  | '0' :: 'x' :: rest => digits 16 rest
  | '0' :: 'X' :: rest => digits 16 rest
  | '0' :: rest => digits 8 rest
  | chars => digits 10 chars

/-- The parts of a name between its points, without an empty one at the end. -/
def nameParts (name : List Char) : List (List Char) :=
  let parts := Text.pieces '.' name
  if 1 < parts.length && parts.getLast? = some [] then parts.dropLast else parts

/-- Whether the last part of a name makes the name an address of version 4. -/
def endsInNumber (name : List Char) : Bool :=
  match (nameParts name).getLast? with
  | none => false
  | some last => (!last.isEmpty && last.all Char.isDigit) || (ipv4Number? last).isSome

/-- Whether a name is an address of version 4. Each part but the last is a byte;
the last takes all the bytes that are left. -/
def isIpv4 (name : List Char) : Bool :=
  let parts := nameParts name
  parts.length ≤ 4 &&
    match parts.mapM ipv4Number? with
    | none => false
    | some numbers =>
      numbers.dropLast.all (· < 256) && numbers.getLastD 0 < Nat.pow 256 (5 - numbers.length)

/-- Whether a part of an address of version 6 is one to four hexadecimal
digits. -/
def isIpv6Group (part : List Char) : Bool :=
  1 ≤ part.length && part.length ≤ 4 && part.all isHexDigit

/-- Whether a part is four bytes in decimal, joined by points. -/
def isDottedQuad (part : List Char) : Bool :=
  let parts := Text.pieces '.' part
  parts.length == 4 &&
    parts.all fun digits => Text.Decimal.isNumeral digits && Text.Decimal.value digits < 256

/-- How many groups of an address of version 6 stand in a run of parts; the last
part may be a dotted quad, which counts twice. -/
def ipv6Groups? (chars : List Char) (mayEndDotted : Bool) : Option Nat :=
  if chars.isEmpty then some 0
  else
    let parts := Text.pieces ':' chars
    let last := parts.getLastD []
    if parts.all isIpv6Group then some parts.length
    else if mayEndDotted && parts.dropLast.all isIpv6Group && isDottedQuad last then
      some (parts.length + 1)
    else none

/-- Whether a text is an address of version 6: eight groups, or fewer when two
colons stand for the rest. -/
def isIpv6 (chars : List Char) : Bool :=
  match Text.cutAtRun? [':', ':'] chars with
  | none => ipv6Groups? chars true == some 8
  | some (before, after) =>
    match ipv6Groups? before false, ipv6Groups? after true with
    | some front, some back => front + back ≤ 7
    | _, _ => false

/-- The host between brackets, if a text is in brackets. -/
def bracketed? : List Char → Option (List Char)
  | '[' :: rest => if rest.getLast? = some ']' then some rest.dropLast else none
  | _ => none

/-- The host of an address that is resolved by name. -/
def readNamedHost (chars : List Char) : Except Fault String :=
  if chars.head? = some '[' then
    match bracketed? chars with
    | some address => if isIpv6 address then .ok (String.ofList chars) else .error .invalidIpv6
    | none => .error .invalidIpv6
  else
    match Name.plain? (Bytes.replaceInvalid (unescape chars)).toList with
    | none => .error .invalidHost
    | some name =>
      if name.any isForbiddenInName then .error .invalidHost
      else if name.isEmpty then .error .emptyHost
      else if endsInNumber name && !isIpv4 name then .error .invalidIpv4
      else .ok (String.ofList name)

/-- The host of an address of any other scheme. -/
def readOpaqueHost (chars : List Char) : Except Fault String :=
  if chars.head? = some '[' then
    match bracketed? chars with
    | some address => if isIpv6 address then .ok (String.ofList chars) else .error .invalidIpv6
    | none => .error .invalidIpv6
  else if chars.any isForbiddenInHost then .error .invalidHost
  else .ok (String.ofList chars)

end StableFleet.Url
