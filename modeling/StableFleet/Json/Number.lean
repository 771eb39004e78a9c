import StableFleet.Text.Bytes
import StableFleet.Text.Cut

/-!
# Numbers in documents

A number in a document is a sign, digits, and perhaps a fraction and an
exponent. It is kept as written: whether it is a whole number that fits a word,
and whether it is small enough for a binary number of double precision, is asked
of it later.
-/

namespace StableFleet.Json

/-- The byte of an ASCII character. -/
abbrev ascii (char : Char) : UInt8 := char.toUInt8

/-- Whether a byte is a decimal digit. -/
def isDigit (byte : UInt8) : Bool := ascii '0' ≤ byte && byte ≤ ascii '9'

/-- The number that a digit denotes. -/
def digitValue (byte : UInt8) : Nat := byte.toNat - 48

/-- A number as written. The fraction is empty when there is none; the exponent
has a sign, true when it is negative, and digits. -/
structure Number where
  negative : Bool
  whole : Bytes
  fraction : Bytes
  exponent : Option (Bool × Bytes)
  deriving Repr, DecidableEq

namespace Number

/-- The number that a run of digits denotes. -/
def value (digits : Bytes) : Nat :=
  digits.foldl (fun total digit => 10 * total + digitValue digit) 0

/-- The digits at the front of some bytes and what follows them. -/
def takeDigits (bytes : Bytes) : Bytes × Bytes :=
  (bytes.takeWhile isDigit, bytes.dropWhile isDigit)

/-- The digits of the whole part: `0`, or digits that do not start with `0`. -/
def readWhole? (bytes : Bytes) : Option (Bytes × Bytes) :=
  let (digits, rest) := takeDigits bytes
  match digits with
  | [] => none
  | first :: others =>
    if first = ascii '0' && !others.isEmpty then none else some (digits, rest)

/-- The digits after a point, or none where no point stands. -/
def readFraction? : Bytes → Option (Bytes × Bytes)
  | [] => some ([], [])
  | byte :: rest =>
    if byte = ascii '.' then
      let (digits, rest) := takeDigits rest
      if digits.isEmpty then none else some (digits, rest)
    else some ([], byte :: rest)

/-- The exponent, if one stands here. -/
def readExponent? : Bytes → Option (Option (Bool × Bytes) × Bytes)
  | [] => some (none, [])
  | byte :: rest =>
    if byte = ascii 'e' || byte = ascii 'E' then
      let (negative, rest) := match rest with
        | [] => (false, [])
        | sign :: after =>
          if sign = ascii '-' then (true, after)
          else if sign = ascii '+' then (false, after)
          else (false, sign :: after)
      let (digits, rest) := takeDigits rest
      if digits.isEmpty then none else some (some (negative, digits), rest)
    else some (none, byte :: rest)

/-- The sign of a number, and what follows it. -/
def readSign : Bytes → Bool × Bytes
  | [] => (false, [])
  | byte :: rest => if byte = ascii '-' then (true, rest) else (false, byte :: rest)

/-- The number at the front of some bytes and what follows it. -/
def read? (bytes : Bytes) : Option (Number × Bytes) := do
  let (negative, bytes) := readSign bytes
  let (whole, bytes) ← readWhole? bytes
  let (fraction, bytes) ← readFraction? bytes
  let (exponent, bytes) ← readExponent? bytes
  return (⟨negative, whole, fraction, exponent⟩, bytes)

/-- The bytes of a number. -/
def write (number : Number) : Bytes :=
  (if number.negative then [ascii '-'] else []) ++ number.whole ++
    (if number.fraction.isEmpty then [] else ascii '.' :: number.fraction) ++
    match number.exponent with
    | none => []
    | some (negative, digits) =>
      ascii 'e' :: (if negative then [ascii '-'] else []) ++ digits

/-- The digits of a natural number. -/
def digitsOf (natural : Nat) : Bytes :=
  (Nat.toDigits 10 natural).map (·.toUInt8)

/-- A natural number as a document has it. -/
def ofNat (natural : Nat) : Number := ⟨false, digitsOf natural, [], none⟩

/-- The natural number written without sign, fraction or exponent, if it fits a
word of 64 bits. -/
def natural? (number : Number) : Option Nat :=
  if number.negative || !number.fraction.isEmpty || number.exponent.isSome then none
  else if value number.whole < UInt64.size then some (value number.whole) else none

/-- A natural number rounded to 53 binary digits, a half to the even neighbour. -/
def roundDouble (natural : Nat) : Nat :=
  if natural < 1 <<< 53 then natural
  else
    let unit := 1 <<< (natural.log2 - 52)
    let low := natural / unit
    let rest := natural % unit
    let up := unit < 2 * rest || (2 * rest == unit && low % 2 == 1)
    (if up then low + 1 else low) * unit

/-- Takes digits into a significand while it fits a word: the significand, how
many digits were taken, and how many were left. -/
def accumulate (significand taken : Nat) : Bytes → Nat × Nat × Nat
  | [] => (significand, taken, 0)
  | digit :: rest =>
    let next := 10 * significand + digitValue digit
    if next < UInt64.size then accumulate next (taken + 1) rest
    else (significand, taken, rest.length + 1)

/-- The significand of a number and the power of ten that goes with it. Digits
beyond a word count by their place in the whole part and not at all in the
fraction. -/
def significand (number : Number) : Nat × Int :=
  let (whole, _, dropped) := accumulate 0 0 number.whole
  let (all, taken, _) := accumulate whole 0 number.fraction
  (all, (dropped : Int) - (taken : Int))

/-- Whether the double nearest to `significand * 10 ^ power` is finite, each
factor being rounded before they are multiplied. -/
def isFinite (significand : Nat) (power : Int) : Bool :=
  significand == 0 || power < 0 ||
    (power ≤ 308 &&
      roundDouble (roundDouble significand * roundDouble (Nat.pow 10 power.toNat)) < 1 <<< 1024)

/-- Whether a number is small enough for double precision. An exponent of more
than 31 bits is too large when it is positive and the significand is not zero. -/
def inRange (number : Number) : Bool :=
  let (digits, power) := number.significand
  match number.exponent with
  | none => isFinite digits power
  | some (negative, exponent) =>
    if value exponent < 1 <<< 31 then
      let shift : Int := value exponent
      isFinite digits (if negative then power - shift else power + shift)
    else digits == 0 || negative

/-- The digits at the front are the longest run of digits there. -/
theorem takeDigits_append (digits rest : Bytes) (all : ∀ digit ∈ digits, isDigit digit = true)
    (stop : ∀ byte, rest.head? = some byte → isDigit byte = false) :
    takeDigits (digits ++ rest) = (digits, rest) := by
  induction digits with
  | nil =>
    cases rest with
    | nil => rfl
    | cons byte rest =>
      have stops := stop byte rfl
      simp [takeDigits, stops]
  | cons digit digits inductionHypothesis =>
    have first := all digit List.mem_cons_self
    have others := inductionHypothesis fun other present => all other (List.mem_cons_of_mem _ present)
    simp only [takeDigits, Prod.mk.injEq] at others
    simp [takeDigits, first, others.1, others.2]

end Number

end StableFleet.Json
