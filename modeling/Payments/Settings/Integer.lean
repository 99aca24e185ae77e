/-!
Integers in decimal digits, read into a range. The first character that is no digit or the first
digit that leaves the range decides what is wrong.
-/

namespace Payments.Settings

inductive IntegerFault
  | empty
  | invalidDigit
  | tooLarge
  | tooSmall
deriving DecidableEq, Repr

def IntegerFault.message : IntegerFault → String
  | .empty => "cannot parse integer from empty string"
  | .invalidDigit => "invalid digit found in string"
  | .tooLarge => "number too large to fit in target type"
  | .tooSmall => "number too small to fit in target type"

def addDigit (negative : Bool) (low high n : Int) (c : Char) : Except IntegerFault Int :=
  if c.isDigit then
    let digit : Int := (c.toNat - '0'.toNat : Nat)
    let next := if negative then n * 10 - digit else n * 10 + digit
    if next < low then .error .tooSmall
    else if high < next then .error .tooLarge
    else .ok next
  else .error .invalidDigit

def readInteger (low high : Int) (chars : List Char) : Except IntegerFault Int :=
  match chars with
  | [] => .error .empty
  | ['+'] | ['-'] => .error .invalidDigit
  | '+' :: digits => digits.foldlM (addDigit false low high) 0
  | '-' :: digits =>
    if low < 0 then digits.foldlM (addDigit true low high) 0 else .error .invalidDigit
  | digits => digits.foldlM (addDigit false low high) 0

end Payments.Settings
