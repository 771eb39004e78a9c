import StableFleet.Text.Cut

/-!
# Names spelled in ASCII

A part of a host's name may have characters above ASCII and still be spelled in
ASCII: its ASCII characters come first, and what follows the last hyphen are
numbers that put the others in, from the lowest code point to the highest. Each
number says how many pairs of a code point and a place are passed over before the
next character is put in. Numbers are written from the lowest digit to the
highest, in base 36; a digit below a threshold is the last one. The thresholds
adapt to the size of the numbers before.
-/

namespace StableFleet.Url.Punycode

/-- How far the reading of a spelling has come: the characters that are there,
the code point of the one that was put in last, the pairs that are passed over,
how many of them were when the number began, and what the next digit of the
number is worth. -/
structure Progress where
  chars : List Char
  code : Nat := 128
  passed : Nat := 0
  began : Nat := 0
  bias : Nat := 72
  digits : Nat := 0
  weight : Nat := 1
  deriving Repr, DecidableEq

/-- The value of a digit. -/
def digit? (char : Char) : Option Nat :=
  if 'a' ≤ char && char ≤ 'z' then some (char.toNat - 97)
  else if char.isDigit then some (char.toNat - 22)
  else none

/-- The threshold of a digit, given how many digits stand before it. -/
def threshold (bias digits : Nat) : Nat := min 26 (max 1 (36 * (digits + 1) - bias))

/-- The bias for numbers of some size. -/
def biasFor (size : Nat) : Nat :=
  if 455 < size then 36 + biasFor (size / 35) else 36 * size / (size + 38)
termination_by size
decreasing_by omega

/-- The bias after a number. The first number tells less of those to come. -/
def nextBias (isFirst : Bool) (number length : Nat) : Nat :=
  let damped := number / (if isFirst then 700 else 2)
  biasFor (damped + damped / length)

namespace Progress

/-- Puts in the character at which a number ends, if there is such a one. -/
def putIn? (progress : Progress) : Option Progress :=
  let length := progress.chars.length + 1
  let code := progress.code + progress.passed / length
  let place := progress.passed % length
  if code.isValidChar then
    some {
      chars := progress.chars.insertIdx place (Char.ofNat code)
      code := code
      passed := place + 1
      began := place + 1
      bias := nextBias (progress.began == 0) (progress.passed - progress.began) length }
  else none

/-- Reads a digit. -/
def read? (progress : Progress) (digit : Nat) : Option Progress :=
  let limit := threshold progress.bias progress.digits
  let further := { progress with passed := progress.passed + digit * progress.weight }
  if digit < limit then further.putIn?
  else some { further with
    digits := progress.digits + 1
    weight := progress.weight * (36 - limit) }

end Progress

/-- The ASCII characters of a spelling, and its digits. A hyphen that starts a
spelling is no mark between them. -/
def cut (spelling : List Char) : List Char × List Char :=
  match Text.cutAt? '-' spelling.reverse with
  | some (digits, char :: before) => ((char :: before).reverse, digits.reverse)
  | _ => ([], spelling)

/-- The characters that are spelled. The last number has to be complete. -/
def decode? (spelling : List Char) : Option (List Char) := do
  let (plain, digits) := cut spelling
  let progress ← digits.foldlM
    (fun progress char => (digit? char).bind progress.read?) ({ chars := plain } : Progress)
  if progress.digits = 0 then some progress.chars else none

end StableFleet.Url.Punycode
