import Payments.Power

/-!
Decimal numbers with a coefficient below `2 ^ 96` and at most 28 places after the point. The scale
is part of the value and is kept by reading and writing; comparison goes by the number alone. A
negative number that is rounded to zero keeps its sign.
-/

namespace Payments

structure Decimal where
  units : Int
  scale : Nat
  negativeZero : Bool := false
  scale_le : scale ≤ 28 := by decide
  units_lt : units.natAbs < 2 ^ 96 := by decide
  units_eq_zero : negativeZero = true → units = 0 := by nofun
deriving DecidableEq, Repr

namespace Decimal

def zero : Decimal := { units := 0, scale := 0 }

instance : Inhabited Decimal := ⟨zero⟩

def ofUnits? (units : Int) (scale : Nat) : Option Decimal :=
  if bounds : scale ≤ 28 ∧ units.natAbs < 2 ^ 96 then
    some { units := units, scale := scale, scale_le := bounds.1, units_lt := bounds.2 }
  else none

def compareTo (x y : Decimal) : Ordering :=
  compare (x.units * 10 ^ y.scale) (y.units * 10 ^ x.scale)

def le (x y : Decimal) : Bool := decide (x.units * 10 ^ y.scale ≤ y.units * 10 ^ x.scale)

def lt (x y : Decimal) : Bool := decide (x.units * 10 ^ y.scale < y.units * 10 ^ x.scale)

def isWhole (x : Decimal) : Bool := x.units % 10 ^ x.scale == 0

def roundQuotient (dividend divisor : Nat) : Nat :=
  let quotient := dividend / divisor
  let remainder := dividend % divisor
  if 2 * remainder < divisor ∨ (2 * remainder = divisor ∧ quotient % 2 = 0) then quotient
  else quotient + 1

def signed (negative : Bool) (magnitude : Nat) : Int :=
  if negative then -(magnitude : Int) else magnitude

/-- The decimal nearest to `units / 10 ^ scale` with as many places as fit, if its whole part
fits. -/
def ofProduct? (units : Int) (scale : Nat) : Option Decimal :=
  ((List.range (scale + 1)).filterMap fun dropped =>
    ofUnits? (signed (decide (units < 0)) (roundQuotient units.natAbs (10 ^ dropped)))
      (scale - dropped)).head?

def mul? (x y : Decimal) : Option Decimal := ofProduct? (x.units * y.units) (x.scale + y.scale)

def hundred : Decimal := { units := 100, scale := 0 }

def million : Decimal := { units := 1000000, scale := 0 }

def toInt64? (x : Decimal) : Option Int64 :=
  let whole := Int.tdiv x.units (10 ^ x.scale)
  if -2 ^ 63 ≤ whole ∧ whole < 2 ^ 63 then some (Int64.ofInt whole) else none

def ofInt64 (n : Int64) (scale : Nat) (bound : scale ≤ 28) : Decimal :=
  { units := n.toInt
    scale := scale
    scale_le := bound
    units_lt := by
      have lower := Int64.le_toInt n
      have upper := Int64.toInt_lt n
      omega }

theorem roundQuotient_le {dividend divisor : Nat} (divisorPositive : 2 ≤ divisor) :
    roundQuotient dividend divisor ≤ dividend := by
  rw [roundQuotient]
  have small : dividend / divisor ≤ dividend / 2 := Nat.div_le_div_left divisorPositive (by decide)
  split
  · omega
  · rename_i notDown
    have nonzero : dividend ≠ 0 := by
      intro isZero
      subst isZero
      simp at notDown
      omega
    omega

@[simp] theorem natAbs_signed (negative : Bool) (magnitude : Nat) :
    (signed negative magnitude).natAbs = magnitude := by
  cases negative <;> simp [signed]

/-- The sign in front of the number; a zero may have one. -/
def isNegative (x : Decimal) : Bool := decide (x.units < 0) || x.negativeZero

def ofRounded (negative : Bool) (magnitude scale : Nat) (scale_le : scale ≤ 28)
    (magnitude_lt : magnitude < 2 ^ 96) : Decimal where
  units := signed negative magnitude
  scale := scale
  negativeZero := negative && magnitude == 0
  scale_le := scale_le
  units_lt := by rwa [natAbs_signed]
  units_eq_zero := by
    intro both
    simp only [Bool.and_eq_true, beq_iff_eq] at both
    simp [signed, both.2]

/-- The number rounded to fewer places, a half going to the even neighbour. -/
def roundTo (places : Nat) (x : Decimal) : Decimal :=
  if fewer : places < x.scale then
    ofRounded x.isNegative (roundQuotient x.units.natAbs (10 ^ (x.scale - places))) places
      (Nat.le_trans (Nat.le_of_lt fewer) x.scale_le)
      (by
        refine Nat.lt_of_le_of_lt (roundQuotient_le ?_) x.units_lt
        have grows : 10 ^ 1 ≤ 10 ^ (x.scale - places) := Nat.pow_le_pow_right (by decide) (by omega)
        omega)
  else x

def atPlaces? (places : Nat) (x : Decimal) : Option Decimal :=
  if x.units * 10 ^ places % 10 ^ x.scale = 0 then
    ofUnits? (x.units * 10 ^ places / 10 ^ x.scale) places
  else none

/-- The number rounded to fewer places, a half going away from zero. -/
def roundHalfAway (places : Nat) (x : Decimal) : Decimal :=
  if fewer : places < x.scale then
    let divisor := 10 ^ (x.scale - places)
    ofRounded x.isNegative ((x.units.natAbs + divisor / 2) / divisor) places
      (Nat.le_trans (Nat.le_of_lt fewer) x.scale_le)
      (by
        have grows : 10 ^ 1 ≤ divisor := Nat.pow_le_pow_right (by decide) (by omega)
        have bound := x.units_lt
        rw [Nat.div_lt_iff_lt_mul (by omega)]
        omega)
  else x

theorem scale_roundHalfAway_le (x : Decimal) (places : Nat) :
    (x.roundHalfAway places).scale ≤ places := by
  rw [roundHalfAway]
  split
  · exact Nat.le_refl places
  · omega

end Decimal

end Payments
