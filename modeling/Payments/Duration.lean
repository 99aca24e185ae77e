import Payments.Power

/-!
Spans of time in nanoseconds. The longest one has `2 ^ 64 - 1` whole seconds; what would be longer
stops there.
-/

namespace Payments

abbrev Duration := Nat

namespace Duration

def ofSeconds (n : Nat) : Duration := n * 1000000000

def ofMillis (n : Nat) : Duration := n * 1000000

def millis (d : Duration) : Nat := d / 1000000

def seconds (d : Duration) : Nat := d / 1000000000

def longest : Duration := ofSeconds (2 ^ 64 - 1) + 999999999

/-- The sum, if a span can be so long. -/
def plus? (d e : Duration) : Option Duration := if d + e ≤ longest then some (d + e) else none

def within? (bits n : Nat) : Option Nat := if n < 2 ^ bits then some n else none

/-- Whole seconds and the nanoseconds behind them are multiplied apart, and the seconds that the
latter come to are carried; `none` if the seconds leave 64 bits. -/
def times? (d : Duration) (factor : Nat) : Option Duration := do
  let nanos := d % ofSeconds 1 * factor
  let whole ← within? 64 (seconds d * factor)
  let carried ← within? 64 (whole + seconds nanos)
  return ofSeconds carried + nanos % ofSeconds 1

def times (d : Duration) (factor : Nat) : Duration := (times? d factor).getD longest

/-- Multiplies by a power, squaring the base from binary digit to binary digit of the exponent;
`none` if a number on the way leaves 32 bits. -/
def timesPower32? (product base : Nat) : (exponent : Nat) → Option Nat
  | 0 => some product
  | 1 => within? 32 (product * base)
  | exponent + 2 => do
    let product ← if exponent % 2 = 1 then within? 32 (product * base) else some product
    let square ← within? 32 (base * base)
    timesPower32? product square (exponent / 2 + 1)

def power32 (base exponent : Nat) : Nat := (timesPower32? 1 base exponent).getD (2 ^ 32 - 1)

theorem plus?_eq_some_iff {d e sum : Duration} :
    plus? d e = some sum ↔ d + e = sum ∧ d + e ≤ longest := by
  rw [plus?]
  split <;> simp [*]

end Duration

end Payments
