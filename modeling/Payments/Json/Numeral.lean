import Payments.Json.Basic

/-!
Numbers as JSON spells them, and their values. Whole numbers within 64 bits are exact; for the rest
the digits are gathered into 64 bits as far as they fit and scaled by a power of ten, each of the
two steps rounding once.
-/

namespace Payments.Json

structure Numeral where
  negative : Bool
  whole : List Nat
  fraction : List Nat
  /-- Sign and digits of the exponent; `true` is minus. -/
  exponent : Option (Bool × List Nat)

structure Gathered where
  significand : Nat
  power : Int
  full : Bool

namespace Numeral

def fits (n : Nat) : Bool := n < 2 ^ 64

def gatherWhole (digits : List Nat) : Gathered :=
  digits.foldl (fun read digit =>
    if read.full then { read with power := read.power + 1 }
    else if fits (read.significand * 10 + digit) then
      { read with significand := read.significand * 10 + digit }
    else { read with power := 1, full := true }) ⟨0, 0, false⟩

def gatherFraction (read : Gathered) (digits : List Nat) : Gathered :=
  digits.foldl (fun read digit =>
    if read.full then read
    else if fits (read.significand * 10 + digit) then
      { read with significand := read.significand * 10 + digit, power := read.power - 1 }
    else { read with full := true }) { read with full := false }

def value (digits : List Nat) : Nat := digits.foldl (fun n digit => n * 10 + digit) 0

def powerOfTen (n : Nat) : Binary64 := (Binary64.ofNat? (10 ^ n)).getD Binary64.zero

/-- Scales by a power of ten in one step, after steps of `10 ^ 308` for a very small number. -/
def scaled (x : Binary64) (power : Int) : Nat → Option Binary64
  | 0 => some x
  | steps + 1 =>
    if power.natAbs ≤ 308 then
      if 0 ≤ power then x.mul? (powerOfTen power.toNat) else x.div? (powerOfTen power.natAbs)
    else if x.isZero then some x
    else if 0 ≤ power then none
    else do scaled (← x.div? (powerOfTen 308)) (power + 308) steps

def float? (negative : Bool) (read : Gathered) : Option Number := do
  let x ← scaled (← Binary64.ofNat? read.significand) read.power 10
  pure (.float (if negative then x.neg else x))

def maxExponent : Nat := 2 ^ 31 - 1

def clampExponent (n : Int) : Int := max (-2 ^ 31) (min maxExponent n)

def number? (n : Numeral) : Option Number :=
  let read := gatherWhole n.whole
  if n.fraction.isEmpty && n.exponent.isNone && !read.full then
    if n.negative && (read.significand = 0 || 2 ^ 63 < read.significand) then
      float? true read
    else some (.int (if n.negative then -(read.significand : Int) else read.significand))
  else
    let read := if n.fraction.isEmpty then read else gatherFraction read n.fraction
    match n.exponent with
    | none => float? n.negative read
    | some (minus, digits) =>
      let size := value digits
      if maxExponent < size then
        if read.significand ≠ 0 && !minus then none
        else some (.float ⟨n.negative, 0, Binary64.leastExponent⟩)
      else
        let moved := if minus then read.power - size else read.power + size
        float? n.negative { read with power := clampExponent moved }

end Numeral

end Payments.Json
