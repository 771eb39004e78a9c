import StableFleet.Text.Decimal

/-!
# Numerals and numbers

Each number has one numeral, its digits: they are read back as the number, and a numeral
that is read as a number is the digits of that number. A mark that is no digit does not
stand in a numeral.
-/

namespace StableFleet.Text.Decimal

theorem digits_ne_nil (number : Nat) : digits number ≠ [] := Nat.toDigits_ne_nil

theorem isDigit_of_mem_digits {number : Nat} {char : Char} (present : char ∈ digits number) :
    char.isDigit = true :=
  Nat.isDigit_of_mem_toDigits (by decide) (by decide) present

/-- A mark that is no digit does not stand in a numeral. -/
theorem not_mem_digits {mark : Char} (number : Nat) (other : mark.isDigit = false) :
    mark ∉ digits number := by
  intro present
  rw [isDigit_of_mem_digits present] at other
  cases other

@[simp] theorem value_digits (number : Nat) : value (digits number) = number :=
  Nat.ofDigitChars_toDigits (by decide) (by decide)

/-- The digits of a positive number do not start with a zero. The induction drops
the last digit. -/
theorem head?_digits {number : Nat} (positive : 0 < number) :
    (digits number).head? ≠ some '0' := by
  induction number using Nat.strongRecOn with
  | ind number inductionHypothesis =>
    unfold digits at inductionHypothesis ⊢
    by_cases small : number < 10
    · rw [Nat.toDigits_of_lt_base small]
      have checked : ∀ digit < 10, 0 < digit → [digit.digitChar].head? ≠ some '0' := by decide
      exact checked number small positive
    · rw [Nat.toDigits_of_base_le (by omega) (by omega), List.head?_append]
      have rest := inductionHypothesis (number / 10) (by omega) (by omega)
      cases first : (Nat.toDigits 10 (number / 10)).head? with
      | none => exact absurd (List.head?_eq_none_iff.mp first) Nat.toDigits_ne_nil
      | some digit =>
        rw [first] at rest
        exact rest

/-- The digits of a number are a numeral. -/
theorem isNumeral_digits (number : Nat) : isNumeral (digits number) = true := by
  by_cases positive : 0 < number
  · have leading := head?_digits positive
    have digit : ∀ char ∈ digits number, char.isDigit = true := fun _ => isDigit_of_mem_digits
    cases written : digits number with
    | nil => exact absurd written (digits_ne_nil number)
    | cons first rest =>
      rw [written] at leading digit
      have nonzero : first ≠ '0' := fun zero => leading (congrArg some zero)
      have others := List.all_eq_true.mpr fun char present =>
        digit char (List.mem_cons_of_mem _ present)
      simp [isNumeral, nonzero, digit first List.mem_cons_self, others]
  · obtain rfl : number = 0 := by omega
    rfl

/-- What holds of each of the ten digits holds of every digit. -/
theorem forall_digit (holds : Char → Prop) (each : ∀ digit < 10, holds (Char.ofNat (48 + digit)))
    {char : Char} (digit : char.isDigit = true) : holds char := by
  simp only [Char.isDigit, Bool.and_eq_true, decide_eq_true_eq] at digit
  have low : 48 ≤ char.toNat := digit.1
  have high : char.toNat ≤ 57 := digit.2
  have found := each (char.toNat - 48) (by omega)
  rw [Nat.add_sub_of_le low, Char.ofNat_toNat] at found
  exact found

/-- A digit is the digit of its value. -/
theorem digits_of_isDigit {char : Char} (digit : char.isDigit = true) :
    char.toNat - '0'.toNat < 10 ∧ digits (char.toNat - '0'.toNat) = [char] :=
  forall_digit (fun char => char.toNat - '0'.toNat < 10 ∧
    digits (char.toNat - '0'.toNat) = [char]) (by decide) digit

/-- Digits that follow a positive number follow its digits. The induction takes the first of
them into the number. -/
theorem digits_foldl {total : Nat} (positive : 0 < total) {chars : List Char}
    (given : ∀ char ∈ chars, char.isDigit = true) :
    digits (chars.foldl (fun total digit => 10 * total + (digit.toNat - '0'.toNat)) total) =
      digits total ++ chars := by
  induction chars generalizing total with
  | nil => exact (List.append_nil _).symm
  | cons char chars inductionHypothesis =>
    obtain ⟨small, single⟩ := digits_of_isDigit (given char List.mem_cons_self)
    have joined : digits (10 * total + (char.toNat - '0'.toNat)) = digits total ++ [char] := by
      rw [← single]
      exact (Nat.toDigits_append_toDigits (by decide) positive small).symm
    rw [List.foldl_cons, inductionHypothesis (by omega) fun other present =>
      given other (List.mem_cons_of_mem _ present), joined, List.append_assoc, List.singleton_append]

/-- A numeral is the digits of its number. -/
theorem digits_value {chars : List Char} (numeral : isNumeral chars = true) :
    digits (value chars) = chars := by
  unfold isNumeral at numeral
  split at numeral
  · cases numeral
  · rfl
  · next first rest _ =>
    simp only [Bool.and_eq_true, bne_iff_ne, List.all_eq_true] at numeral
    obtain ⟨⟨nonzero, digit⟩, others⟩ := numeral
    obtain ⟨small, single⟩ := digits_of_isDigit digit
    have positive : 0 < 10 * 0 + (first.toNat - '0'.toNat) := by
      refine Nat.pos_of_ne_zero fun zero => nonzero ?_
      rw [Nat.mul_zero, Nat.zero_add] at zero
      rw [zero] at single
      exact (List.cons.inj single).1.symm
    rw [value, List.foldl_cons, digits_foldl positive others, Nat.mul_zero, Nat.zero_add, single]
    rfl

/-- Characters are read as a number exactly when they are its digits. -/
theorem read?_eq_some_iff {chars : List Char} {number : Nat} :
    read? chars = some number ↔ chars = digits number := by
  unfold read?
  constructor
  · intro found
    split at found
    · next numeral =>
      cases found
      exact (digits_value numeral).symm
    · cases found
  · rintro rfl
    rw [if_pos (isNumeral_digits number), value_digits]

end StableFleet.Text.Decimal
