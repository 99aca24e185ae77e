import Mathlib.Data.Nat.Basic
import Mathlib.Order.Monotone.Defs
import Payments.Gateway.Retry

/-!
The delays between the attempts at the gateway. A power of the multiplier that leaves 32 bits counts
as the greatest number of 32 bits, and a delay that leaves 64 bits of seconds as the longest span;
short of these limits a delay is the base delay times the power.
-/

namespace Payments

namespace Duration

theorem within?_eq_none {bits n : Nat} (leaves : 2 ^ bits ≤ n) : within? bits n = none :=
  if_neg (Nat.not_lt.mpr leaves)

theorem getD_within? (bits n : Nat) :
    (within? bits n).getD (2 ^ bits - 1) = min (2 ^ bits - 1) n := by
  have positive := Nat.two_pow_pos bits
  unfold within?
  split <;> simp only [Option.getD_some, Option.getD_none] <;> omega

theorem bind_within? {α : Type} {bits n : Nat} {next : Nat → Option α} {result : Option α}
    (fits : n < 2 ^ bits → next n = result) (leaves : 2 ^ bits ≤ n → result = none) :
    (within? bits n >>= next) = result := by
  unfold within?
  split
  · exact fits ‹_›
  · exact (leaves (Nat.le_of_not_lt ‹_›)).symm

def productSeconds (d : Duration) (factor : Nat) : Nat :=
  seconds d * factor + seconds (d % ofSeconds 1 * factor)

theorem productSeconds_add_nanos (d : Duration) (factor : Nat) :
    ofSeconds (productSeconds d factor) + d % ofSeconds 1 * factor % ofSeconds 1 = d * factor := by
  have apart : 1000000000 * (d / 1000000000 * factor) + d % 1000000000 * factor = d * factor := by
    rw [← Nat.mul_assoc, ← Nat.add_mul, Nat.div_add_mod]
  simp only [productSeconds, ofSeconds, seconds, Nat.one_mul]
  grind

theorem ofSeconds_add_le_longest {whole nanos : Nat} (apart : nanos < 1000000000) :
    ofSeconds whole + nanos ≤ longest ↔ whole < 2 ^ 64 := by
  have longest : longest = 18446744073709551615999999999 := by decide
  rw [longest, ofSeconds]
  show whole * 1000000000 + nanos ≤ 18446744073709551615999999999 ↔ whole < 2 ^ 64
  omega

theorem times?_eq (d : Duration) (factor : Nat) :
    times? d factor = if d * factor ≤ longest then some (d * factor) else none := by
  have inside : d * factor ≤ longest ↔ productSeconds d factor < 2 ^ 64 := by
    rw [← productSeconds_add_nanos]
    exact ofSeconds_add_le_longest (Nat.mod_lt _ (by decide))
  have part : seconds d * factor ≤ productSeconds d factor := Nat.le_add_right _ _
  simp only [inside]
  refine bind_within? (fun _ => bind_within? (fun fits => ?_) fun leaves => ?_) fun leaves => ?_
  · exact (congrArg some (productSeconds_add_nanos d factor)).trans (if_pos fits).symm
  · exact if_neg (Nat.not_lt.mpr leaves)
  · exact if_neg (Nat.not_lt.mpr (Nat.le_trans leaves part))

theorem times_eq_min (d : Duration) (factor : Nat) : times d factor = min longest (d * factor) := by
  rw [times, times?_eq]
  split <;> simp only [Option.getD_some, Option.getD_none] <;> grind

theorem digit_mul_square (product base exponent : Nat) :
    (if exponent % 2 = 1 then product * base else product) * (base * base) ^ (exponent / 2 + 1) =
      product * base ^ (exponent + 2) := by
  rw [← Nat.pow_two, ← Nat.pow_mul]
  split
  · rw [Nat.mul_assoc, ← Nat.pow_succ']
    congr 2
    omega
  · congr 2
    omega

theorem square_le_power {product base : Nat} (exponent : Nat) (seen : product = 0 → base = 0) :
    base * base ≤ product * base ^ (exponent + 2) := by
  rcases Nat.eq_zero_or_pos base with rfl | positive
  · exact Nat.zero_le _
  · have counted : 0 < product := by grind
    calc base * base ≤ base ^ exponent * (base * base) :=
          Nat.le_mul_of_pos_left _ (Nat.pow_pos positive)
      _ = base ^ (exponent + 2) := by rw [← Nat.pow_two, ← Nat.pow_add]
      _ ≤ product * base ^ (exponent + 2) := Nat.le_mul_of_pos_left _ counted

theorem mul_base_le_power (product base exponent : Nat) :
    product * base ≤ product * base ^ (exponent + 2) :=
  Nat.mul_le_mul_left _ (Nat.le_self_pow (by omega) base)

theorem timesPower32?_eq {product base : Nat} (exponent : Nat) (small : product < 2 ^ 32)
    (seen : product = 0 → base = 0) :
    timesPower32? product base exponent = within? 32 (product * base ^ exponent) := by
  -- Every number on the way is at most the whole product, so one that leaves 32 bits shows that the
  -- whole product does. A product of zero would hide a great square; only base zero leads to one.
  fun_induction timesPower32? product base exponent with
  | case1 product base => simp [within?, small]
  | case2 product base => rw [Nat.pow_one]
  | case3 product base exponent rest odd ih =>
      have whole := digit_mul_square product base exponent
      rw [if_pos odd] at whole
      have taken := mul_base_le_power product base exponent
      have square := square_le_power exponent seen
      have seenNext : product * base = 0 → base * base = 0 := by
        intro none
        rcases Nat.mul_eq_zero.mp none with none | none
        · rw [seen none]
        · rw [none]
      refine bind_within? (fun fits => bind_within? (fun _ => ?_) fun leaves => ?_) fun leaves => ?_
      · rw [ih _ _ fits seenNext, whole]
      · exact within?_eq_none (Nat.le_trans leaves square)
      · exact within?_eq_none (Nat.le_trans leaves taken)
  | case4 product base exponent rest even ih =>
      have whole := digit_mul_square product base exponent
      rw [if_neg even] at whole
      have square := square_le_power exponent seen
      have seenNext : product = 0 → base * base = 0 := fun none => by rw [seen none]
      refine bind_within? (fun _ => ?_) fun leaves => ?_
      · rw [ih _ _ small seenNext, whole]
      · exact within?_eq_none (Nat.le_trans leaves square)

theorem power32_eq_min (base exponent : Nat) :
    power32 base exponent = min (2 ^ 32 - 1) (base ^ exponent) := by
  rw [power32, timesPower32?_eq exponent (by decide) (by simp), getD_within?, Nat.one_mul]

end Duration

namespace Gateway.RetryPolicy

variable {policy : RetryPolicy}

theorem delayAfter_eq (policy : RetryPolicy) (attempt : Nat) :
    policy.delayAfter attempt = min Duration.longest
      (policy.baseDelay * min (2 ^ 32 - 1) (policy.multiplier ^ (max attempt 1 - 1))) := by
  have number : max attempt 1 - 1 = attempt - 1 := by omega
  rw [delayAfter, Duration.times_eq_min, Duration.power32_eq_min, number]

theorem delayAfter_of_le_one {attempt : Nat} (fits : policy.baseDelay ≤ Duration.longest)
    (first : attempt ≤ 1) : policy.delayAfter attempt = policy.baseDelay := by
  have number : max attempt 1 - 1 = 0 := by omega
  have one : min (2 ^ 32 - 1) 1 = 1 := by decide
  rw [delayAfter_eq, number, Nat.pow_zero, one, Nat.mul_one, Nat.min_eq_right fits]

theorem delayAfter_mono (grows : 1 ≤ policy.multiplier) : Monotone policy.delayAfter := by
  intro earlier later order
  have exponents : max earlier 1 - 1 ≤ max later 1 - 1 := by omega
  have powers := Nat.pow_le_pow_right grows exponents
  have factors : min (2 ^ 32 - 1) (policy.multiplier ^ (max earlier 1 - 1)) ≤
      min (2 ^ 32 - 1) (policy.multiplier ^ (max later 1 - 1)) := by omega
  have products := Nat.mul_le_mul_left policy.baseDelay factors
  rw [delayAfter_eq, delayAfter_eq]
  grind

theorem delayAfter_exact {attempt : Nat} (short : policy.delayAfter attempt < Duration.longest)
    (small : policy.delayAfter attempt < policy.baseDelay * (2 ^ 32 - 1)) :
    policy.delayAfter attempt = policy.baseDelay * policy.multiplier ^ (attempt - 1) := by
  have number : max attempt 1 - 1 = attempt - 1 := by omega
  rw [delayAfter_eq, number] at short small ⊢
  by_cases inside : policy.multiplier ^ (attempt - 1) ≤ 2 ^ 32 - 1
  · rw [Nat.min_eq_right inside] at short ⊢
    grind
  · have outside : 2 ^ 32 - 1 ≤ policy.multiplier ^ (attempt - 1) := Nat.le_of_not_le inside
    rw [Nat.min_eq_left outside] at short small
    grind

/-- A delay is the base delay times the power of the multiplier, or times the greatest number of 32
bits if that is smaller, but no longer than the longest span. So the first delay is the base delay,
a delay short of both limits is the product itself, and unless the multiplier is zero no delay is
shorter than the one before. -/
theorem delayAfter_saturates (policy : RetryPolicy) (fits : policy.baseDelay ≤ Duration.longest) :
    (∀ attempt, policy.delayAfter attempt = min Duration.longest
      (policy.baseDelay * min (2 ^ 32 - 1) (policy.multiplier ^ (max attempt 1 - 1)))) ∧
    policy.delayAfter 0 = policy.baseDelay ∧ policy.delayAfter 1 = policy.baseDelay ∧
    (∀ attempt, policy.delayAfter attempt < Duration.longest →
      policy.delayAfter attempt < policy.baseDelay * (2 ^ 32 - 1) →
      policy.delayAfter attempt = policy.baseDelay * policy.multiplier ^ (attempt - 1)) ∧
    (1 ≤ policy.multiplier →
      Monotone policy.delayAfter ∧ ∀ attempt, policy.baseDelay ≤ policy.delayAfter attempt) := by
  have first : policy.delayAfter 0 = policy.baseDelay := delayAfter_of_le_one fits (by decide)
  refine ⟨policy.delayAfter_eq, first, delayAfter_of_le_one fits (Nat.le_refl 1),
    fun _ => delayAfter_exact, fun grows => ⟨delayAfter_mono grows, fun attempt => ?_⟩⟩
  calc policy.baseDelay = policy.delayAfter 0 := first.symm
    _ ≤ policy.delayAfter attempt := delayAfter_mono grows (Nat.zero_le attempt)

theorem delayAfter_saturates_tripled :
    let policy : RetryPolicy := { charge with baseDelay := Duration.ofMillis 1500, multiplier := 3 }
    policy.baseDelay ≤ Duration.longest ∧ 1 ≤ policy.multiplier ∧
      policy.delayAfter 21 = policy.baseDelay * 3 ^ 20 ∧
      policy.delayAfter 22 = policy.baseDelay * (2 ^ 32 - 1) ∧
      Monotone policy.delayAfter := by
  intro policy
  have fits : policy.baseDelay ≤ Duration.longest := by decide
  have grows : 1 ≤ policy.multiplier := by decide
  obtain ⟨delay, _, _, _, growing⟩ := delayAfter_saturates policy fits
  refine ⟨fits, grows, ?_, ?_, (growing grows).1⟩
  · rw [delay]
    decide +kernel
  · rw [delay]
    decide +kernel

/-- The third delay would take more seconds than there are in 64 bits. -/
example :
    ({ charge with baseDelay := Duration.ofSeconds (2 ^ 62) } : RetryPolicy).delayAfter 3 =
      Duration.longest := by
  decide +kernel

end Gateway.RetryPolicy

end Payments
