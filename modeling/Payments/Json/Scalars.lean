import Payments.Decimal.Text
import Payments.Instant
import Payments.Json.Reader
import Payments.Uuid

/-!
Decimals, times and identifiers inside JSON text. A decimal may be a string or a number; a number
that is no 64-bit integer counts as the shortest decimal digits of its floating-point value.
-/

namespace Payments.Json.Reader

def ofNumber? : Number → Option Decimal
  | .int n => Decimal.ofUnits? n 0
  | .float x => (Decimal.ofText x.plainText).toOption

def decimal : Reader Decimal := do
  match ← peek with
  | some '"' => filterMap (fun text => (Decimal.ofText text).toOption) quoted
  | some c => if startsNumber c then filterMap ofNumber? number else mismatch
  | none => malformed

def instant : Reader Instant := filterMap Instant.ofText? string

def uuid : Reader Uuid := filterMap Uuid.ofText? string

end Payments.Json.Reader
