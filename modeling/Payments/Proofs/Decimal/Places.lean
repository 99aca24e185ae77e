import Payments.Proofs.Decimal.Value

/-!
Decimals written with other places than their own. A number that is filled up with zeros and rounded to
the places it had comes back as it was, scale and sign included.
-/

namespace Payments.Decimal

variable {x y : Decimal} {places : Nat}

theorem ext (units : x.units = y.units) (scale : x.scale = y.scale)
    (sign : x.negativeZero = y.negativeZero) : x = y := by
  cases x
  cases y
  cases units
  cases scale
  cases sign
  rfl

theorem ofUnits?_negativeZero {units : Int} {scale : Nat} (made : ofUnits? units scale = some x) :
    x.negativeZero = false := by
  unfold ofUnits? at made
  split at made
  · cases made
    rfl
  · cases made

theorem padded_units (more : x.scale ≤ places) :
    x.units * 10 ^ places = x.units * 10 ^ (places - x.scale) * 10 ^ x.scale := by
  rw [Int.mul_assoc, ← pow_add, Nat.sub_add_cancel more]

theorem atPlaces?_of_le (more : x.scale ≤ places) :
    x.atPlaces? places = ofUnits? (x.units * 10 ^ (places - x.scale)) places := by
  rw [atPlaces?, padded_units more, Int.mul_emod_left, if_pos rfl,
    Int.mul_ediv_cancel _ (by positivity)]

theorem value_of_atPlaces? (made : x.atPlaces? places = some y) :
    y.scale = places ∧ y.value = x.value := by
  unfold atPlaces? at made
  split at made
  · rename_i divides
    obtain ⟨units, scale⟩ := ofUnits?_eq_some made
    have whole : y.units * 10 ^ x.scale = x.units * 10 ^ places := by
      rw [units, Int.ediv_mul_cancel (Int.dvd_of_emod_eq_zero divides)]
    refine ⟨scale, ?_⟩
    rw [value, value, scale, div_eq_div_iff (by positivity) (by positivity)]
    exact_mod_cast whole
  · cases made

theorem roundTo_of_atPlaces? (more : x.scale ≤ places) (unsigned : x.negativeZero = false)
    (made : x.atPlaces? places = some y) : y.roundTo x.scale = x := by
  rw [atPlaces?_of_le more] at made
  obtain ⟨units, scale⟩ := ofUnits?_eq_some made
  have noSign := ofUnits?_negativeZero made
  by_cases fewer : x.scale < places
  · have zeros : (0 : Int) < 10 ^ (places - x.scale) := by positivity
    have negative : y.isNegative = decide (x.units < 0) := by
      rw [isNegative, noSign, Bool.or_false, units, decide_eq_decide]
      exact lt_iff_lt_of_le_iff_le (mul_nonneg_iff_of_pos_right zeros)
    have magnitude : y.units.natAbs = x.units.natAbs * 10 ^ (places - x.scale) := by
      rw [units, Int.natAbs_mul, Int.natAbs_pow]
      rfl
    have rounded : roundQuotient y.units.natAbs (10 ^ (y.scale - x.scale)) = x.units.natAbs := by
      have positive : 0 < 10 ^ (places - x.scale) := by positivity
      rw [scale, magnitude, roundQuotient_of_dvd (Nat.dvd_mul_left _ _) positive,
        Nat.mul_div_cancel _ positive]
    have isNonzero : (decide (x.units < 0) && x.units.natAbs == 0) = false := by
      rw [Bool.and_eq_false_iff, decide_eq_false_iff_not, beq_eq_false_iff_ne]
      omega
    rw [roundTo, dif_pos (scale ▸ fewer)]
    refine ext ?_ rfl ?_
    · simp only [ofRounded, rounded, negative, signed_natAbs]
    · simp only [ofRounded, rounded, negative, isNonzero, unsigned]
  · have same : x.scale = places := by omega
    rw [roundTo, dif_neg (by omega)]
    refine ext ?_ (scale.trans same.symm) (noSign.trans unsigned.symm)
    rw [units, same, Nat.sub_self, pow_zero, Int.mul_one]

end Payments.Decimal
