/-!
# Decimal numerals

A numeral is `0`, or digits of which the first is not `0`, so each number has
one numeral. Some numbers have to fit a machine word of 64 bits.
-/

namespace StableFleet.Text.Decimal

/-- The numeral of a number. -/
def digits (number : Nat) : List Char := Nat.toDigits 10 number

/-- The number that a run of digits denotes. -/
def value (chars : List Char) : Nat :=
  chars.foldl (fun total digit => 10 * total + (digit.toNat - '0'.toNat)) 0

/-- Whether the characters are a numeral. -/
def isNumeral : List Char → Bool
  | [] => false
  | ['0'] => true
  | first :: rest => first != '0' && first.isDigit && rest.all Char.isDigit

/-- The number of a numeral; other characters have none. -/
def read? (chars : List Char) : Option Nat :=
  if isNumeral chars then some (value chars) else none

/-- The number as a word of 64 bits, if it fits. -/
def word? (number : Nat) : Option UInt64 :=
  if number < UInt64.size then some (UInt64.ofNat number) else none

/-- The word as text. -/
def ofWord (word : UInt64) : String :=
  String.ofList (digits word.toNat)

/-- A number fits exactly when it is the value of the word it becomes. -/
theorem word?_eq_some_iff {number : Nat} {word : UInt64} :
    word? number = some word ↔ word.toNat = number := by
  unfold word?
  constructor
  · intro found
    split at found
    · next fits =>
      cases found
      exact UInt64.toNat_ofNat_of_lt' fits
    · cases found
  · intro same
    have fits : number < UInt64.size := same ▸ word.toNat_lt_size
    rw [if_pos fits]
    congr 1
    apply UInt64.toNat_inj.mp
    exact (UInt64.toNat_ofNat_of_lt' fits).trans same.symm

end StableFleet.Text.Decimal
