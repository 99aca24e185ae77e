import Payments.Refusal
import Payments.Text.Blank

/-!
Currencies by their three-letter codes. A gateway counts amounts in the smallest unit: a hundredth,
or the unit itself for the currencies that have no smaller one.
-/

namespace Payments

structure Currency where
  code : String
  length_code : code.toList.length = 3
  isUpper_code : ∀ c ∈ code.toList, c.isUpper = true
deriving DecidableEq, Repr

namespace Currency

theorem isUpper_toUpper {c : Char} (letter : c.isAlpha = true) : c.toUpper.isUpper = true := by
  delta Char.isAlpha Char.isUpper Char.isLower at letter
  delta Char.toUpper Char.isUpper
  grind

/-- Three ASCII letters, blanks around them apart. -/
def ofText (text : String) : Except Refusal Currency :=
  let code := Text.trim text
  if code = "" then .error .missingCurrency
  else if letters : code.toList.length = 3 ∧ code.toList.all Char.isAlpha then
    .ok
      { code := String.ofList (code.toList.map Char.toUpper)
        length_code := by simpa using letters.1
        isUpper_code := by
          intro c member
          simp only [String.toList_ofList, List.mem_map] at member
          obtain ⟨letter, member, rfl⟩ := member
          exact isUpper_toUpper (List.all_eq_true.mp letters.2 letter member) }
  else .error (.unsupportedCurrency code "")

def zeroDecimalCodes : List String :=
  ["BIF", "CLP", "DJF", "GNF", "JPY", "KMF", "KRW", "MGA", "PYG", "RWF", "UGX", "VND", "VUV",
   "XAF", "XOF", "XPF"]

def isZeroDecimal (currency : Currency) : Bool := zeroDecimalCodes.contains currency.code

def places (currency : Currency) : Nat := if currency.isZeroDecimal then 0 else 2

theorem places_le (currency : Currency) : currency.places ≤ 2 := by
  unfold places
  split <;> decide

/-- The amount in smallest units, if it is a whole number of them within 64 bits. -/
def toMinor (currency : Currency) (amount : Decimal) : Except Refusal Int64 :=
  let scaled := if currency.isZeroDecimal then some amount else amount.mul? Decimal.hundred
  match (scaled.filter Decimal.isWhole).bind Decimal.toInt64? with
  | some minor => .ok minor
  | none => .error (.amountNotRepresentable amount currency.code)

def ofMinor (currency : Currency) (minor : Int64) : Decimal :=
  Decimal.ofInt64 minor currency.places (Nat.le_trans currency.places_le (by decide))

end Currency

end Payments
