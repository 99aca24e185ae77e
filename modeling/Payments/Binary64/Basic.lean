import Payments.Power

/-!
Finite binary floating-point numbers of 64 bits, as exact values: a sign, a significand below
`2 ^ 53` and a power of two. Every operation rounds the exact result to the nearest such number, a
tie going to the even significand.
-/

namespace Payments

structure Binary64 where
  negative : Bool
  significand : Nat
  exponent : Int
deriving DecidableEq, Repr

namespace Binary64

def leastExponent : Int := -1074
def greatestExponent : Int := 971

def zero : Binary64 := ⟨false, 0, leastExponent⟩

def isZero (x : Binary64) : Bool := x.significand == 0

def neg (x : Binary64) : Binary64 := { x with negative := !x.negative }

def bitLength (n : Nat) : Nat := if n = 0 then 0 else Nat.log2 n + 1

def aligned (num den : Nat) (exponent : Int) : Nat × Nat :=
  (num * 2 ^ (-exponent).toNat, den * 2 ^ exponent.toNat)

def roundHalfEven (num den : Nat) : Nat :=
  let quotient := num / den
  let remainder := num % den
  if 2 * remainder < den ∨ (2 * remainder = den ∧ quotient % 2 = 0) then quotient
  else quotient + 1

/-- The number nearest to `num / den`, or nothing if that is out of range. -/
def ofRatio? (negative : Bool) (num den : Nat) : Option Binary64 :=
  if num = 0 then some ⟨negative, 0, leastExponent⟩
  else
    let guess : Int := (bitLength num : Int) - bitLength den - 53
    let wide := (fun (n, d) => n / d) (aligned num den guess)
    let exponent := max leastExponent (if wide < 2 ^ 53 then guess else guess + 1)
    let rounded := (fun (n, d) => roundHalfEven n d) (aligned num den exponent)
    let (significand, exponent) :=
      if rounded = 2 ^ 53 then (2 ^ 52, exponent + 1) else (rounded, exponent)
    if exponent ≤ greatestExponent then some ⟨negative, significand, exponent⟩ else none

def ratio (x : Binary64) : Nat × Nat :=
  (x.significand * 2 ^ x.exponent.toNat, 2 ^ (-x.exponent).toNat)

def ofNat? (n : Nat) : Option Binary64 := ofRatio? false n 1

def mul? (x y : Binary64) : Option Binary64 :=
  let (a, b) := x.ratio
  let (c, d) := y.ratio
  ofRatio? (x.negative != y.negative) (a * c) (b * d)

def div? (x y : Binary64) : Option Binary64 :=
  let (a, b) := x.ratio
  let (c, d) := y.ratio
  ofRatio? (x.negative != y.negative) (a * d) (b * c)

end Binary64

end Payments
