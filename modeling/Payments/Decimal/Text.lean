import Payments.Decimal.Basic

/-!
Decimals as text. Writing shows every place the scale counts. Reading takes a sign, digits with one
point and underscores after the first digit; the first digit for which there is no room rounds the
rest, a half going away from zero. An exponent may follow, of at most 28 either way.
-/

namespace Payments.Decimal

inductive TextFault
  | empty | noDigits | leadingUnderscore | secondPoint | unknownCharacter
  | tooManyDigits | roundedAway
  | malformedExponent | exponentTooLarge (exponent : Nat) | tooLarge
deriving DecidableEq, Repr

def TextFault.message : TextFault → String
  | .empty => "Invalid decimal: empty"
  | .noDigits => "Invalid decimal: no digits found"
  | .leadingUnderscore => "Invalid decimal: must start lead with a number"
  | .secondPoint => "Invalid decimal: two decimal points"
  | .unknownCharacter => "Invalid decimal: unknown character"
  | .tooManyDigits => "Invalid decimal: overflow from too many digits"
  | .roundedAway => "Invalid decimal: overflow from mantissa after rounding"
  | .malformedExponent => "Failed to parse"
  | .exponentTooLarge exponent =>
    s!"Scale exceeds the maximum precision allowed: {exponent} > 28"
  | .tooLarge => "Number exceeds maximum value that can be represented."

def paddedDigits (width n : Nat) : List Char :=
  let digits := Nat.toDigits 10 n
  List.replicate (width - digits.length) '0' ++ digits

def text (x : Decimal) : String :=
  let whole := Nat.toDigits 10 (x.units.natAbs / 10 ^ x.scale)
  let fraction := if x.scale = 0 then []
    else '.' :: paddedDigits x.scale (x.units.natAbs % 10 ^ x.scale)
  String.ofList ((if x.isNegative then ['-'] else []) ++ whole ++ fraction)

def digit? (c : Char) : Option Nat := if c.isDigit then some (c.toNat - '0'.toNat) else none

/-- What has been read of a number: its sign, its digits, and the places after the point. -/
structure Partial where
  negative : Bool
  units : Nat := 0
  scale : Nat := 0
  point : Bool := false
  units_lt : units < 2 ^ 96 := by decide
  scale_le : scale ≤ 28

namespace Partial

def start (negative : Bool) : Partial := { negative := negative, scale_le := zero.scale_le }

def push? (read : Partial) (digit : Nat) : Option Partial :=
  let units := read.units * 10 + digit
  let scale := if read.point then read.scale + 1 else read.scale
  if room : units < 2 ^ 96 ∧ scale ≤ 28 then
    some { read with units := units, scale := scale, units_lt := room.1, scale_le := room.2 }
  else none

def finish (read : Partial) : Decimal where
  units := signed read.negative read.units
  scale := read.scale
  scale_le := read.scale_le
  units_lt := by rw [natAbs_signed]; exact read.units_lt

def refuse {α : Type} : Char → Except TextFault α
  | '.' => .error .secondPoint
  | '_' => .error .leadingUnderscore
  | _ => .error .unknownCharacter

/-- Closes the number at the first digit that no longer fits. -/
def round (read : Partial) (digit : Nat) : Except TextFault Decimal :=
  if digit < 5 then .ok read.finish
  else if small : read.units + 1 < 2 ^ 96 then
    .ok { read with units := read.units + 1, units_lt := small }.finish
  else if read.scale = 0 then .error .roundedAway
  else
    .ok { read with
      units := (read.units + 5) / 10
      scale := read.scale - 1
      units_lt := by have bound := read.units_lt; omega
      scale_le := by have bound := read.scale_le; omega }.finish

def read (soFar : Partial) (started : Bool) : List Char → Except TextFault Decimal
  | [] => if started then .ok soFar.finish else .error .noDigits
  | c :: rest =>
    match digit? c with
    | some digit =>
      match soFar.push? digit with
      | some longer => longer.read true rest
      | none =>
        if soFar.point then
          match rest.find? fun c => !(c.isDigit || c = '_') with
          | some stray => refuse stray
          | none => soFar.round digit
        else .error .tooManyDigits
    | none =>
      if c = '.' && !soFar.point then { soFar with point := true }.read started rest
      else if c = '_' && started then soFar.read started rest
      else refuse c

end Partial

def ofPlain : List Char → Except TextFault Decimal
  | [] => .error .empty
  | '-' :: rest => (Partial.start true).read false rest
  | '+' :: rest => (Partial.start false).read false rest
  | chars => (Partial.start false).read false chars

def natural? (chars : List Char) : Option Nat :=
  let digits := match chars with
    | '+' :: rest => rest
    | _ => chars
  if digits.isEmpty then none
  else digits.foldlM (fun n c => (digit? c).map (n * 10 + ·)) 0

def exponent (chars : List Char) : Except TextFault (Fin 29) :=
  match (natural? chars).filter (· < 2 ^ 32) with
  | none => .error .malformedExponent
  | some n => if small : n < 29 then .ok ⟨n, small⟩ else .error (.exponentTooLarge n)

def shiftLeft (x : Decimal) (places : Fin 29) : Decimal :=
  let kept := x.roundHalfAway (28 - places)
  { kept with
    scale := kept.scale + places
    scale_le := by
      have bound : kept.scale ≤ 28 - places := scale_roundHalfAway_le x _
      omega }

def shiftRight? (x : Decimal) (places : Nat) : Option Decimal :=
  if places ≤ x.scale then some { x with
    scale := x.scale - places
    scale_le := by have bound := x.scale_le; omega }
  else ofUnits? (x.units * 10 ^ (places - x.scale)) 0

def isExponentMark (c : Char) : Bool := c = 'e' || c = 'E'

def ofScientific (base power : List Char) : Except TextFault Decimal := do
  let x ← ofPlain base
  match power with
  | '-' :: rest => return x.shiftLeft (← exponent rest)
  | rest =>
    match x.shiftRight? (← exponent rest) with
    | some shifted => return shifted
    | none => throw .tooLarge

def ofText (text : String) : Except TextFault Decimal :=
  let base := text.toList.takeWhile (!isExponentMark ·)
  match text.toList.dropWhile (!isExponentMark ·) with
  | [] => ofPlain base
  | _ :: power => ofScientific base power

end Payments.Decimal
