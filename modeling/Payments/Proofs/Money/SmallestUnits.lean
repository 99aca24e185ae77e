import Payments.Proofs.Decimal.Value
import Payments.Money

/-!
Amounts in the smallest units of a currency. Main statement: an amount has a number of smallest
units exactly if it is a whole number of them within 64 bits, and that number gives it back. Nothing
is rounded on the way.
-/

namespace Payments.Currency

open Decimal

theorem pow_places (currency : Currency) :
    (10 : ℚ) ^ currency.places = if currency.isZeroDecimal then 1 else 100 := by
  unfold places
  split
  · exact pow_zero 10
  · norm_num

theorem toMinor_eq_ok_iff (currency : Currency) (amount : Decimal) (minor : Int64) :
    currency.toMinor amount = .ok minor ↔
      amount.value * 10 ^ currency.places = minor.toInt := by
  have told : currency.toMinor amount = .ok minor ↔
      ((if currency.isZeroDecimal then some amount else amount.mul? hundred).filter isWhole).bind
        toInt64? = some minor := by
    unfold toMinor
    dsimp only
    generalize (Option.filter isWhole _).bind toInt64? = counted
    cases counted <;> simp
  rw [told, pow_places]
  split
  · rw [whole_toInt64?_eq_some_iff, mul_one]
  · cases product : amount.mul? hundred with
    | none =>
        constructor
        · nofun
        · exact fun whole => absurd whole (value_mul_hundred_ne_of_none product minor)
    | some scaled => rw [whole_toInt64?_eq_some_iff, value_of_mul?_hundred product]

theorem toMinor_error (currency : Currency) (amount : Decimal) :
    (∃ minor, currency.toMinor amount = .ok minor) ∨
      currency.toMinor amount = .error (.amountNotRepresentable amount currency.code) := by
  unfold toMinor
  dsimp only
  split
  · exact .inl ⟨_, rfl⟩
  · exact .inr rfl

theorem value_ofMinor (currency : Currency) (minor : Int64) :
    (currency.ofMinor minor).value * 10 ^ currency.places = minor.toInt := by
  rw [value]
  exact div_mul_cancel₀ _ (by positivity)

/-- An amount has a number of smallest units exactly if it is a whole number of them within 64 bits;
every such number is that of an amount with as many places as the currency has. -/
theorem toMinor_exact (currency : Currency) (amount : Decimal) :
    (∀ n : ℤ, (∃ minor : Int64, minor.toInt = n ∧ currency.toMinor amount = .ok minor) ↔
      amount.value * 10 ^ currency.places = n ∧ -2 ^ 63 ≤ n ∧ n ≤ 2 ^ 63 - 1) ∧
    (∀ refusal, currency.toMinor amount = .error refusal ↔
      refusal = .amountNotRepresentable amount currency.code ∧
        ¬ ∃ n : ℤ, amount.value * 10 ^ currency.places = n ∧ -2 ^ 63 ≤ n ∧ n ≤ 2 ^ 63 - 1) ∧
    (∀ minor : Int64, currency.toMinor (currency.ofMinor minor) = .ok minor) ∧
    (∀ minor : Int64, currency.toMinor amount = .ok minor ↔
      (currency.ofMinor minor).value = amount.value) ∧
    ∀ minor : Int64, (currency.ofMinor minor).scale = currency.places := by
  have counted : ∀ n : ℤ,
      (∃ minor : Int64, minor.toInt = n ∧ currency.toMinor amount = .ok minor) ↔
        amount.value * 10 ^ currency.places = n ∧ -2 ^ 63 ≤ n ∧ n ≤ 2 ^ 63 - 1 := by
    intro n
    constructor
    · rintro ⟨minor, rfl, ok⟩
      have lower := Int64.le_toInt minor
      have upper := Int64.toInt_lt minor
      exact ⟨(toMinor_eq_ok_iff currency amount minor).mp ok, by omega, by omega⟩
    · rintro ⟨whole, lower, upper⟩
      have same : (Int64.ofInt n).toInt = n := Int64.toInt_ofInt_of_le (by omega) (by omega)
      exact ⟨.ofInt n, same, (toMinor_eq_ok_iff currency amount _).mpr (by rw [same, whole])⟩
  refine ⟨counted, ?_, ?_, ?_, fun _ => rfl⟩
  · intro refusal
    simp only [← counted]
    rcases toMinor_error currency amount with ⟨minor, ok⟩ | error
    · simp [ok]
    · simp [error, eq_comm]
  · exact fun minor => (toMinor_eq_ok_iff currency _ minor).mpr (value_ofMinor currency minor)
  · intro minor
    rw [toMinor_eq_ok_iff, ← value_ofMinor]
    constructor
    · exact fun same => (mul_right_cancel₀ (by positivity) same).symm
    · rintro same
      rw [same]

/-- The hundredfold of this amount needs 99 bits before its zeros are dropped. -/
example : (⟨"EUR", rfl, by simp⟩ : Currency).toMinor
    { units := 7922816251426433759000000000, scale := 11 } = .ok 7922816251426433759 := by
  decide +kernel

end Payments.Currency
