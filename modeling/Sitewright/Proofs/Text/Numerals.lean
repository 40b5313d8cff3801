import Mathlib.Data.List.Basic

/-!
# Decimal numerals

Every text of digits stands for a number, and some stand for the same one. Digits read after a
positive number stand after its own (`Text.toDigits_ofDigitChars_of_pos`), while zeros at the start
are lost, and nothing else is: what stands for a positive number is its numeral with some zeros
before it (`Text.ofDigitChars_eq_iff`). So a text that does not start with a zero is the numeral of
the number it stands for.
-/

namespace Sitewright.Text

variable {c : Char} {digits : List Char} {n : Nat}

/-- A digit is the digit of a number below ten. -/
theorem digitChar_of_isDigit (h : c.isDigit = true) :
    c.toNat - '0'.toNat < 10 ∧ (c.toNat - '0'.toNat).digitChar = c := by
  obtain ⟨low, high⟩ : 48 ≤ c.toNat ∧ c.toNat ≤ 57 := by
    simpa [Char.isDigit, UInt32.le_iff_toNat_le] using h
  have zero : '0'.toNat = 48 := rfl
  have lt : c.toNat - 48 < 10 := by omega
  refine ⟨lt, Char.toNat_inj.mp ?_⟩
  rw [zero, Nat.toNat_digitChar_of_lt_ten lt]
  omega

theorem all_isDigit_toDigits (n : Nat) : (Nat.toDigits 10 n).all Char.isDigit = true :=
  List.all_eq_true.mpr fun _ ↦ Nat.isDigit_of_mem_toDigits (by decide) (by decide)

/-- Digits that are read after a positive number stand after its digits. -/
theorem toDigits_ofDigitChars_of_pos (h : ∀ c ∈ digits, c.isDigit = true) (pos : 0 < n) :
    Nat.toDigits 10 (Nat.ofDigitChars 10 digits n) = Nat.toDigits 10 n ++ digits := by
  induction digits generalizing n with
  | nil => rw [Nat.ofDigitChars_nil, List.append_nil]
  | cons c digits ih =>
    obtain ⟨digit, others⟩ := List.forall_mem_cons.mp h
    obtain ⟨lt, eq⟩ := digitChar_of_isDigit digit
    rw [Nat.ofDigitChars_cons, ih others (by omega),
      ← Nat.toDigits_append_toDigits (by decide) pos lt, Nat.toDigits_of_lt_base lt, eq,
      List.append_assoc, List.singleton_append]

/-- Digits after one that is not zero are the numeral of the number they stand for. -/
theorem toDigits_ofDigitChars_cons (h : ∀ d ∈ c :: digits, d.isDigit = true) (ne : c ≠ '0') :
    Nat.toDigits 10 (Nat.ofDigitChars 10 (c :: digits) 0) = c :: digits := by
  obtain ⟨digit, others⟩ := List.forall_mem_cons.mp h
  obtain ⟨lt, eq⟩ := digitChar_of_isDigit digit
  have pos : 0 < c.toNat - '0'.toNat := by
    refine Nat.pos_of_ne_zero fun zero ↦ ne ?_
    rw [zero] at eq
    exact eq.symm
  rw [Nat.ofDigitChars_cons, Nat.mul_zero, Nat.zero_add, toDigits_ofDigitChars_of_pos others pos,
    Nat.toDigits_of_lt_base lt, eq, List.singleton_append]

/-- A text of digits without a zero that could be left out is the numeral of the number it stands
for. -/
theorem toDigits_ofDigitChars (h : ∀ c ∈ digits, c.isDigit = true) (nonempty : digits ≠ [])
    (leading : digits.head? = some '0' → digits.length = 1) :
    Nat.toDigits 10 (Nat.ofDigitChars 10 digits 0) = digits := by
  obtain ⟨c, rest, rfl⟩ := List.exists_cons_of_ne_nil nonempty
  by_cases zero : c = '0'
  · subst zero
    obtain rfl : rest = [] := List.length_eq_zero_iff.mp (Nat.succ.inj (leading rfl))
    rfl
  · exact toDigits_ofDigitChars_cons h zero

theorem head?_toDigits_ne_zero (pos : 0 < n) : (Nat.toDigits 10 n).head? ≠ some '0' := by
  induction n using Nat.strongRecOn with
  | ind n ih =>
    by_cases lt : n < 10
    · simpa [Nat.toDigits_of_lt_base lt] using Nat.pos_iff_ne_zero.mp pos
    · rw [Nat.toDigits_of_base_le (by decide) (by omega),
        List.head?_append_of_ne_nil _ Nat.toDigits_ne_nil]
      exact ih (n / 10) (by omega) (by omega)

/-- The numeral of a number, with zeros before it. -/
def paddedDigits (zeros n : Nat) : List Char := List.replicate zeros '0' ++ Nat.toDigits 10 n

theorem ofDigitChars_paddedDigits (zeros n : Nat) :
    Nat.ofDigitChars 10 (paddedDigits zeros n) 0 = n := by
  rw [paddedDigits, Nat.ofDigitChars_append, Nat.ofDigitChars_replicate_zero, Nat.mul_zero,
    Nat.ofDigitChars_ten_toDigits]

theorem isDigit_of_mem_paddedDigits {zeros : Nat} (mem : c ∈ paddedDigits zeros n) :
    c.isDigit = true := by
  rcases List.mem_append.mp mem with mem | mem
  · rw [List.eq_of_mem_replicate mem]
    decide
  · exact Nat.isDigit_of_mem_toDigits (by decide) (by decide) mem

/-- **What stands for a positive number is its numeral, with zeros before it.** -/
theorem ofDigitChars_eq_iff (h : ∀ c ∈ digits, c.isDigit = true) (pos : 0 < n) :
    Nat.ofDigitChars 10 digits 0 = n ↔ ∃ zeros, digits = paddedDigits zeros n := by
  refine ⟨fun value ↦ ?_, fun ⟨zeros, eq⟩ ↦ eq ▸ ofDigitChars_paddedDigits zeros n⟩
  induction digits with
  | nil => exact absurd value (Nat.ne_of_lt pos)
  | cons c digits ih =>
    by_cases zero : c = '0'
    · subst zero
      obtain ⟨zeros, rfl⟩ := ih (List.forall_mem_cons.mp h).2 value
      exact ⟨zeros + 1, rfl⟩
    · exact ⟨0, by rw [← value, paddedDigits, toDigits_ofDigitChars_cons h zero]; rfl⟩

end Sitewright.Text
