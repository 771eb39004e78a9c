import StableFleet.Json.Number
import StableFleet.Proofs.Text.Decimal

/-!
# Natural numbers written and read back

The digits of a natural number do not start with a zero, unless the number is zero
itself. So the number is read back from them, if what follows does not go on with
the number.
-/

namespace StableFleet.Json

/-- What follows a value in a document: nothing, a comma or a line end. -/
def Ends (rest : Bytes) : Prop :=
  rest = [] ∨ ∃ byte after, rest = byte :: after ∧ (byte = ascii ',' ∨ byte = ascii '\n')

theorem ends_comma (rest : Bytes) : Ends (ascii ',' :: rest) := .inr ⟨_, _, rfl, .inl rfl⟩

theorem ends_line (rest : Bytes) : Ends (ascii '\n' :: rest) := .inr ⟨_, _, rfl, .inr rfl⟩

namespace Number

/-- The byte of a decimal digit is a digit, and stands for zero only if the digit
does. -/
theorem isDigit_toUInt8 {char : Char} (digit : char.isDigit = true) :
    isDigit char.toUInt8 = true ∧ (char.toUInt8 = ascii '0' → char = '0') :=
  Text.Decimal.forall_digit (fun char => isDigit char.toUInt8 = true ∧
    (char.toUInt8 = ascii '0' → char = '0')) (by decide) digit

/-- The digits of a natural number as bytes: digits, at least one, and no zero in
front of others. -/
theorem digitsOf_spec (natural : Nat) :
    ∃ first others, digitsOf natural = first :: others ∧
      (∀ digit ∈ first :: others, isDigit digit = true) ∧ (first = ascii '0' → others = []) := by
  have digits (char : Char) (present : char ∈ Nat.toDigits 10 natural) : char.isDigit = true :=
    Text.Decimal.isDigit_of_mem_digits present
  cases written : Nat.toDigits 10 natural with
  | nil => exact absurd written (Text.Decimal.digits_ne_nil natural)
  | cons char chars =>
    rw [written] at digits
    refine ⟨char.toUInt8, chars.map (·.toUInt8), by rw [digitsOf, written]; rfl, ?_, ?_⟩
    · intro digit present
      obtain ⟨source, member, rfl⟩ := List.mem_map.mp
        (show digit ∈ (char :: chars).map (·.toUInt8) from present)
      exact (isDigit_toUInt8 (digits source member)).1
    · intro zero
      have leading := (isDigit_toUInt8 (digits char List.mem_cons_self)).2 zero
      by_cases positive : 0 < natural
      · have nonzero := Text.Decimal.head?_digits positive
        rw [Text.Decimal.digits, written, leading] at nonzero
        exact absurd rfl nonzero
      · obtain rfl : natural = 0 := by omega
        rw [Nat.toDigits_zero] at written
        rw [← (List.cons.inj written).2]
        rfl

/-- What ends a value goes on with no number. -/
theorem ends_spec {rest : Bytes} (ends : Ends rest) :
    (∀ byte, rest.head? = some byte → isDigit byte = false) ∧
      readFraction? rest = some ([], rest) ∧ readExponent? rest = some (none, rest) := by
  rcases ends with rfl | ⟨byte, after, rfl, mark⟩
  · exact ⟨nofun, rfl, rfl⟩
  · have other : isDigit byte = false ∧ byte ≠ ascii '.' ∧ byte ≠ ascii 'e' ∧ byte ≠ ascii 'E' := by
      rcases mark with rfl | rfl <;> decide
    obtain ⟨noDigit, noPoint, noExponent, noCapital⟩ := other
    refine ⟨?_, by simp [readFraction?, noPoint], by simp [readExponent?, noExponent, noCapital]⟩
    rintro _ ⟨⟩
    exact noDigit

/-- A natural number is written as its digits. -/
theorem write_ofNat (natural : Nat) : (ofNat natural).write = digitsOf natural := by
  simp [ofNat, write]

/-- A natural number is read back from its digits. -/
theorem read?_ofNat (natural : Nat) {rest : Bytes} (ends : Ends rest) :
    read? ((ofNat natural).write ++ rest) = some (ofNat natural, rest) := by
  obtain ⟨stops, noFraction, noExponent⟩ := ends_spec ends
  obtain ⟨first, others, written, digits, noZero⟩ := digitsOf_spec natural
  have taken := takeDigits_append (first :: others) rest digits stops
  have notMinus : first ≠ ascii '-' := by
    rintro rfl
    have digit := digits _ List.mem_cons_self
    exact absurd digit (by decide)
  have whole : readWhole? (first :: others ++ rest) = some (first :: others, rest) := by
    rw [readWhole?, taken]
    cases others with
    | nil => simp
    | cons next others =>
      have notZero : first ≠ ascii '0' := fun zero => nomatch noZero zero
      simp [notZero]
  have bytes : (ofNat natural).write ++ rest = first :: others ++ rest := by
    rw [write_ofNat, written]
  have sign : readSign (first :: others ++ rest) = (false, first :: others ++ rest) := by
    simp [readSign, notMinus]
  rw [bytes, read?, sign]
  simp only [whole, noFraction, noExponent, Option.bind_eq_bind, Option.bind_some, ofNat, written]
  rfl

/-- The byte of a decimal digit has the value of the digit. -/
theorem digitValue_toUInt8 {char : Char} (digit : char.isDigit = true) :
    digitValue char.toUInt8 = char.toNat - '0'.toNat :=
  Text.Decimal.forall_digit (fun char => digitValue char.toUInt8 = char.toNat - '0'.toNat)
    (by decide) digit

/-- The digits of a natural number denote it. -/
theorem value_digitsOf (natural : Nat) : value (digitsOf natural) = natural := by
  have denoted (chars : List Char) (digits : ∀ char ∈ chars, char.isDigit = true) (total : Nat) :
      (chars.map (·.toUInt8)).foldl (fun total digit => 10 * total + digitValue digit) total =
        chars.foldl (fun total digit => 10 * total + (digit.toNat - '0'.toNat)) total := by
    induction chars generalizing total with
    | nil => rfl
    | cons char chars inductionHypothesis =>
      rw [List.map_cons, List.foldl_cons, List.foldl_cons,
        digitValue_toUInt8 (digits char List.mem_cons_self),
        inductionHypothesis fun other present => digits other (List.mem_cons_of_mem _ present)]
  have digits := denoted (Nat.toDigits 10 natural)
    (fun _ present => Text.Decimal.isDigit_of_mem_digits present) 0
  exact digits.trans (Text.Decimal.value_digits natural)

/-- A natural number that fits a word is found in what it is written as. -/
theorem natural?_ofNat {natural : Nat} (fits : natural < UInt64.size) :
    (ofNat natural).natural? = some natural := by
  simp [natural?, ofNat, value_digitsOf, fits]

/-- Taking digits into a number does not make it smaller. -/
theorem le_foldl_digits (digits : Bytes) (total : Nat) :
    total ≤ digits.foldl (fun total digit => 10 * total + digitValue digit) total := by
  induction digits generalizing total with
  | nil => exact Nat.le_refl total
  | cons digit digits inductionHypothesis =>
    have later := inductionHypothesis (10 * total + digitValue digit)
    rw [List.foldl_cons]
    omega

/-- All digits are taken into a significand that fits a word. -/
theorem accumulate_of_fits (digits : Bytes) (start taken : Nat)
    (fits : digits.foldl (fun total digit => 10 * total + digitValue digit) start < UInt64.size) :
    accumulate start taken digits =
      (digits.foldl (fun total digit => 10 * total + digitValue digit) start,
        taken + digits.length, 0) := by
  induction digits generalizing start taken with
  | nil => rfl
  | cons digit digits inductionHypothesis =>
    rw [List.foldl_cons] at fits ⊢
    have next := Nat.lt_of_le_of_lt (le_foldl_digits digits _) fits
    rw [accumulate, if_pos next, inductionHypothesis _ _ fits, List.length_cons]
    congr 2
    omega

/-- A natural number of at most 53 binary digits is in the range of double precision. -/
theorem inRange_ofNat {natural : Nat} (small : natural < 1 <<< 53) :
    (ofNat natural).inRange = true := by
  have fits : natural < UInt64.size := Nat.lt_trans small (by decide)
  have taken : accumulate 0 0 (digitsOf natural) = (natural, 0 + (digitsOf natural).length, 0) := by
    have digits := accumulate_of_fits (digitsOf natural) 0 0
    rw [show (digitsOf natural).foldl _ 0 = natural from value_digitsOf natural] at digits
    exact digits fits
  have whole : (ofNat natural).significand = (natural, 0) := by
    rw [significand, ofNat, taken]
    rfl
  have exact : roundDouble natural = natural := if_pos small
  have product : roundDouble (roundDouble natural * roundDouble (Nat.pow 10 0)) = natural := by
    rw [exact, show roundDouble (Nat.pow 10 0) = 1 from rfl, Nat.mul_one, exact]
  have bounded : natural < 1 <<< 1024 := Nat.lt_trans small (by decide)
  have finite : isFinite natural 0 = true := by
    simp only [isFinite, Int.toNat_zero, product, bounded, decide_true, Bool.and_true, Bool.or_eq_true]
    exact .inr rfl
  rw [inRange, whole]
  exact finite

end Number

end StableFleet.Json
