import Mathlib.Algebra.Order.Field.Rat
import Mathlib.Tactic.FieldSimp
import Mathlib.Tactic.NormNum
import Payments.Decimal.Basic

/-!
The number that a decimal stands for. A decimal with nothing behind the point is told by its units,
and a product with a hundred is never rounded: the two places that the factor takes up can be given
back without loss.
-/

namespace Payments.Decimal

def value (x : Decimal) : ℚ := x.units / 10 ^ x.scale

variable {x y : Decimal}

@[simp] theorem value_zero : zero.value = 0 := by simp [value, zero]

theorem le_iff_value_le : x.le y = true ↔ x.value ≤ y.value := by
  rw [le, decide_eq_true_eq, value, value, div_le_div_iff₀ (by positivity) (by positivity)]
  exact_mod_cast Iff.rfl

theorem lt_iff_value_lt : x.lt y = true ↔ x.value < y.value := by
  rw [lt, decide_eq_true_eq, value, value, div_lt_div_iff₀ (by positivity) (by positivity)]
  exact_mod_cast Iff.rfl

theorem value_mul_eq_intCast_iff (x : Decimal) (factor n : Int) :
    x.value * factor = n ↔ x.units * factor = n * 10 ^ x.scale := by
  rw [value, div_mul_eq_mul_div, div_eq_iff (by positivity)]
  exact_mod_cast Iff.rfl

theorem value_eq_intCast_iff (x : Decimal) (n : Int) :
    x.value = n ↔ x.units = n * 10 ^ x.scale := by
  simpa using value_mul_eq_intCast_iff x 1 n

theorem isWhole_iff : x.isWhole = true ↔ ∃ n : Int, x.value = n := by
  simp only [value_eq_intCast_iff]
  rw [isWhole, beq_iff_eq, ← Int.dvd_iff_emod_eq_zero]
  exact ⟨fun ⟨n, whole⟩ => ⟨n, by rw [whole, Int.mul_comm]⟩,
    fun ⟨n, whole⟩ => ⟨n, by rw [whole, Int.mul_comm]⟩⟩

theorem toInt64?_eq_some_iff {n : Int} (whole : x.value = n) (minor : Int64) :
    x.toInt64? = some minor ↔ n = minor.toInt := by
  have quotient : Int.tdiv x.units (10 ^ x.scale) = n := by
    rw [(value_eq_intCast_iff x n).mp whole, Int.mul_tdiv_cancel _ (by positivity)]
  have lower := Int64.le_toInt minor
  have upper := Int64.toInt_lt minor
  simp only [toInt64?, quotient]
  split
  · rename_i fits
    rw [Option.some.injEq]
    constructor
    · rintro rfl
      exact (Int64.toInt_ofInt_of_le (by omega) (by omega)).symm
    · rintro rfl
      exact Int64.ofInt_toInt minor
  · rename_i outside
    constructor
    · nofun
    · rintro rfl
      exact absurd ⟨by omega, by omega⟩ outside

theorem whole_toInt64?_eq_some_iff (x : Decimal) (minor : Int64) :
    ((some x).filter isWhole).bind toInt64? = some minor ↔ x.value = minor.toInt := by
  rw [Option.filter_some]
  split
  · rename_i whole
    obtain ⟨n, isValue⟩ := isWhole_iff.mp whole
    rw [Option.bind_some, toInt64?_eq_some_iff isValue, isValue, Int.cast_inj]
  · rename_i broken
    constructor
    · nofun
    · exact fun isValue => absurd (isWhole_iff.mpr ⟨_, isValue⟩) broken

theorem ofUnits?_eq_some {units : Int} {scale : Nat} (made : ofUnits? units scale = some x) :
    x.units = units ∧ x.scale = scale := by
  unfold ofUnits? at made
  split at made
  · cases made
    exact ⟨rfl, rfl⟩
  · cases made

theorem ofUnits?_eq_none_iff {units : Int} {scale : Nat} :
    ofUnits? units scale = none ↔ 28 < scale ∨ 2 ^ 96 ≤ units.natAbs := by
  unfold ofUnits?
  split <;> simp <;> omega

theorem roundQuotient_of_dvd {dividend divisor : Nat} (divides : divisor ∣ dividend)
    (positive : 0 < divisor) : roundQuotient dividend divisor = dividend / divisor := by
  have none : dividend % divisor = 0 := Nat.mod_eq_zero_of_dvd divides
  simp [roundQuotient, none, positive]

theorem signed_natAbs (n : Int) : signed (decide (n < 0)) n.natAbs = n := by
  by_cases negative : n < 0
  · simp only [signed, negative, decide_true, if_true]
    omega
  · simp only [signed, negative, decide_false, Bool.false_eq_true, if_false]
    omega

theorem signed_mul (negative : Bool) (magnitude factor : Nat) :
    signed negative magnitude * factor = signed negative (magnitude * factor) := by
  cases negative <;> simp [signed]

theorem signed_roundQuotient_mul {n : Int} {divisor : Nat} (divides : divisor ∣ n.natAbs)
    (positive : 0 < divisor) :
    signed (decide (n < 0)) (roundQuotient n.natAbs divisor) * divisor = n := by
  rw [roundQuotient_of_dvd divides positive, signed_mul, Nat.div_mul_cancel divides, signed_natAbs]

theorem ofProduct?_eq_some {units : Int} {scale : Nat} (made : ofProduct? units scale = some x) :
    ∃ dropped ≤ scale,
      ofUnits? (signed (decide (units < 0)) (roundQuotient units.natAbs (10 ^ dropped)))
        (scale - dropped) = some x ∧
      ∀ fewer < dropped,
        ofUnits? (signed (decide (units < 0)) (roundQuotient units.natAbs (10 ^ fewer)))
          (scale - fewer) = none := by
  rw [ofProduct?, List.head?_filterMap, List.findSome?_eq_some_iff] at made
  obtain ⟨before, dropped, after, range, fits, tooLarge⟩ := made
  have ordered : (before ++ dropped :: after).Pairwise (· < ·) := range ▸ List.pairwise_lt_range
  have later := (List.pairwise_cons.mp (List.pairwise_append.mp ordered).2.1).1
  have within : dropped ∈ List.range (scale + 1) := by simp [range]
  have bound := List.mem_range.mp within
  refine ⟨dropped, by omega, fits, fun fewer less => tooLarge fewer ?_⟩
  have known : fewer ∈ before ++ dropped :: after := range ▸ List.mem_range.mpr (by omega)
  rcases List.mem_append.mp known with member | member
  · exact member
  · rcases List.mem_cons.mp member with same | behind
    · omega
    · have := later fewer behind
      omega

theorem ofProduct?_eq_none {units : Int} {scale : Nat} (none : ofProduct? units scale = none) :
    ∀ dropped ≤ scale,
      ofUnits? (signed (decide (units < 0)) (roundQuotient units.natAbs (10 ^ dropped)))
        (scale - dropped) = .none := by
  intro dropped bound
  rw [ofProduct?, List.head?_filterMap, List.findSome?_eq_none_iff] at none
  exact none dropped (List.mem_range.mpr (by omega))

theorem hundredfold_dropped (x : Decimal) {dropped : Nat} (few : dropped ≤ 2) :
    signed (decide (x.units * 100 < 0)) (roundQuotient (x.units * 100).natAbs (10 ^ dropped)) =
      x.units * 10 ^ (2 - dropped) := by
  have divides : 10 ^ dropped ∣ (x.units * 100).natAbs := by
    rw [Int.natAbs_mul]
    exact Nat.dvd_mul_left_of_dvd (pow_dvd_pow 10 few) _
  have kept := signed_roundQuotient_mul divides (by positivity)
  have split : (100 : Int) = 10 ^ (2 - dropped) * 10 ^ dropped := by
    rw [← pow_add, Nat.sub_add_cancel few]
    norm_num
  refine Int.eq_of_mul_eq_mul_right (a := (10 : Int) ^ dropped) (by positivity) ?_
  rw [Int.mul_assoc, ← split]
  exact_mod_cast kept

theorem mul?_hundred_eq_some (made : x.mul? hundred = some y) :
    ∃ dropped ≤ 2, dropped ≤ x.scale ∧ y.units = x.units * 10 ^ (2 - dropped) ∧
      y.scale = x.scale - dropped := by
  have product : ofProduct? (x.units * 100) x.scale = some y := made
  obtain ⟨dropped, within, fits, tooLarge⟩ := ofProduct?_eq_some product
  have few : dropped ≤ 2 := by
    by_contra many
    have none := tooLarge 2 (by omega)
    rw [hundredfold_dropped x (Nat.le_refl 2), ofUnits?_eq_none_iff] at none
    have units := x.units_lt
    have scale := x.scale_le
    simp only [Nat.sub_self, pow_zero, Int.mul_one] at none
    omega
  rw [hundredfold_dropped x few] at fits
  obtain ⟨units, scale⟩ := ofUnits?_eq_some fits
  exact ⟨dropped, few, within, units, scale⟩

theorem value_of_mul?_hundred (made : x.mul? hundred = some y) : y.value = x.value * 100 := by
  obtain ⟨dropped, few, within, units, scale⟩ := mul?_hundred_eq_some made
  have places : (10 : ℚ) ^ x.scale = 10 ^ (x.scale - dropped) * 10 ^ dropped := by
    rw [← pow_add, Nat.sub_add_cancel within]
  have hundred : (100 : ℚ) = 10 ^ (2 - dropped) * 10 ^ dropped := by
    rw [← pow_add, Nat.sub_add_cancel few]
    norm_num
  rw [value, value, units, scale, places, hundred]
  push_cast
  field_simp

theorem mul?_hundred_eq_none (none : x.mul? hundred = none) :
    x.scale ≤ 1 ∧ 2 ^ 96 ≤ x.units.natAbs * 100 := by
  have product : ofProduct? (x.units * 100) x.scale = .none := none
  have tooLarge := ofProduct?_eq_none product
  have units := x.units_lt
  have scale := x.scale_le
  constructor
  · by_contra room
    have none := tooLarge 2 (by omega)
    rw [hundredfold_dropped x (Nat.le_refl 2), ofUnits?_eq_none_iff] at none
    simp only [Nat.sub_self, pow_zero, Int.mul_one] at none
    omega
  · have none := tooLarge 0 (Nat.zero_le _)
    have hundred : ((10 : Int) ^ (2 - 0)).natAbs = 100 := rfl
    rw [hundredfold_dropped x (Nat.zero_le 2), ofUnits?_eq_none_iff, Int.natAbs_mul, hundred]
      at none
    omega

theorem value_mul_hundred_ne_of_none (none : x.mul? hundred = none) (minor : Int64) :
    x.value * 100 ≠ minor.toInt := by
  intro whole
  have units := (value_mul_eq_intCast_iff x 100 minor.toInt).mp (by exact_mod_cast whole)
  obtain ⟨few, large⟩ := mul?_hundred_eq_none none
  have lower := Int64.le_toInt minor
  have upper := Int64.toInt_lt minor
  have places : x.scale = 0 ∨ x.scale = 1 := by omega
  rcases places with places | places
  · rw [places] at units
    omega
  · rw [places] at units
    omega

end Payments.Decimal
