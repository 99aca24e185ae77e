import Payments.Decimal.Text

/-!
Decimal digits as numbers: they only take a number further from zero, and a number written with
zeros in front is the same number.
-/

namespace Payments

theorem le_ofDigitChars (digits : List Char) (start : Nat) :
    start ≤ Nat.ofDigitChars 10 digits start := by
  induction digits generalizing start with
  | nil => exact Nat.le_of_eq Nat.ofDigitChars_nil.symm
  | cons c digits ih =>
      rw [Nat.ofDigitChars_cons]
      have grown := ih (10 * start + (c.toNat - '0'.toNat))
      omega

theorem isDigit_of_mem_toDigits {n : Nat} {c : Char} (member : c ∈ Nat.toDigits 10 n) :
    c.isDigit = true := Nat.isDigit_of_mem_toDigits (by decide) (by decide) member

namespace Decimal

variable {width n : Nat}

theorem isDigit_of_mem_paddedDigits {c : Char} (member : c ∈ paddedDigits width n) :
    c.isDigit = true := by
  rcases List.mem_append.mp member with zero | digit
  · rw [List.eq_of_mem_replicate zero]
    rfl
  · exact isDigit_of_mem_toDigits digit

theorem length_paddedDigits (some : 0 < width) (fits : n < 10 ^ width) :
    (paddedDigits width n).length = width := by
  have length : (Nat.toDigits 10 n).length ≤ width :=
    (Nat.length_toDigits_le_iff (by decide) some).mpr fits
  simp only [paddedDigits, List.length_append, List.length_replicate]
  omega

theorem ofDigitChars_paddedDigits (some : 0 < width) (fits : n < 10 ^ width) (start : Nat) :
    Nat.ofDigitChars 10 (paddedDigits width n) start = 10 ^ width * start + n := by
  have zeros : Nat.ofDigitChars 10 (paddedDigits width n) 0 = n := by
    simp only [paddedDigits, Nat.ofDigitChars_append, Nat.ofDigitChars_replicate_zero, Nat.mul_zero,
      Nat.ofDigitChars_ten_toDigits]
  rw [Nat.ofDigitChars_eq_ofDigitChars_zero, zeros, length_paddedDigits some fits]

end Decimal

end Payments
