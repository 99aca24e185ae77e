import Payments.Binary64.Basic

/-!
The fewest decimal digits that read back as the same floating-point number, and among those the
digits nearest to it, written out in two ways: without an exponent, or with one where the point
would be far from the digits.
-/

namespace Payments.Binary64

structure Digits where
  digits : Nat
  exponent : Int

/-- Bounds of the numbers that round to this one, over a common denominator with the number. -/
structure Interval where
  low : Nat
  value : Nat
  high : Nat
  denominator : Nat
  closed : Bool

def interval (x : Binary64) : Interval :=
  let narrow := x.significand = 2 ^ 52 ∧ leastExponent < x.exponent
  let (scale, denominator) := (2 ^ x.exponent.toNat, 4 * 2 ^ (-x.exponent).toNat)
  { low := (4 * x.significand - (if narrow then 1 else 2)) * scale
    value := 4 * x.significand * scale
    high := (4 * x.significand + 2) * scale
    denominator := denominator
    closed := x.significand % 2 == 0 }

def Interval.contains (i : Interval) (n : Nat) (exponent : Int) : Bool :=
  let point := n * 10 ^ exponent.toNat * i.denominator
  let unit := 10 ^ (-exponent).toNat
  if i.closed then i.low * unit ≤ point && point ≤ i.high * unit
  else i.low * unit < point && point < i.high * unit

def Interval.onGrid? (i : Interval) (exponent : Int) : Option Digits :=
  let num := i.value * 10 ^ (-exponent).toNat
  let den := i.denominator * 10 ^ exponent.toNat
  let below := num / den
  let above := below + 1
  let nearBelow := 2 * (num % den) < den ∨ (2 * (num % den) = den ∧ below % 2 = 0)
  match i.contains below exponent, i.contains above exponent with
  | true, true => some ⟨if nearBelow then below else above, exponent⟩
  | true, false => some ⟨below, exponent⟩
  | false, true => some ⟨above, exponent⟩
  | false, false => none

def magnitude (num den : Nat) : Int :=
  if den ≤ num then (Nat.toDigits 10 (num / den)).length
  else 1 - ((Nat.toDigits 10 ((den - 1) / num)).length : Int)

def stripZeros : Nat → Digits → Digits
  | 0, d => d
  | steps + 1, d =>
    if d.digits % 10 = 0 ∧ d.digits ≠ 0 then stripZeros steps ⟨d.digits / 10, d.exponent + 1⟩ else d

def shortest (x : Binary64) : Digits :=
  if x.isZero then ⟨0, 0⟩
  else
    let i := x.interval
    let size := magnitude i.value i.denominator
    match (List.range 17).findSome? fun (digits : Nat) => i.onGrid? (size - 1 - digits) with
    | some d => stripZeros 20 d
    | none => ⟨x.significand, 0⟩

def zeros (n : Nat) : List Char := List.replicate n '0'

def sign (x : Binary64) : List Char := if x.negative then ['-'] else []

def withPoint (digits : List Char) (places : Nat) : List Char :=
  let padded := zeros (places + 1 - digits.length) ++ digits
  let whole := padded.length - places
  padded.take whole ++ (if places = 0 then [] else '.' :: padded.drop whole)

def plainText (x : Binary64) : String :=
  let d := x.shortest
  let digits := Nat.toDigits 10 d.digits
  String.ofList (x.sign ++
    if 0 ≤ d.exponent then (if x.isZero then digits else digits ++ zeros d.exponent.toNat)
    else withPoint digits (-d.exponent).toNat)

/-- The number as JSON writes it: a whole number keeps `.0`, and an exponent appears once the point
would stand more than five places before or sixteen places after the first digit. -/
def jsonText (x : Binary64) : String :=
  let d := x.shortest
  let digits := Nat.toDigits 10 d.digits
  let pointAt := (digits.length : Int) + d.exponent
  String.ofList (x.sign ++
    if x.isZero then ['0', '.', '0']
    else if 0 ≤ d.exponent ∧ pointAt ≤ 16 then digits ++ zeros d.exponent.toNat ++ ['.', '0']
    else if -5 < pointAt ∧ pointAt ≤ 16 then withPoint digits (-d.exponent).toNat
    else
      let power := pointAt - 1
      let powerText := (if power < 0 then ['-'] else []) ++ Nat.toDigits 10 power.natAbs
      withPoint digits (digits.length - 1) ++ 'e' :: powerText)

end Payments.Binary64
