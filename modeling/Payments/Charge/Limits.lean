import Payments.Charge.Request

/-!
Which charges are accepted: a ceiling on the amount and a list of currencies. Validation goes
through its rules in a fixed order and names the first that fails.
-/

namespace Payments

structure ChargeLimits where
  maxAmount : Decimal
  currencies : List Currency

/-- A charge that passed every rule, with its texts trimmed and its amount in smallest units. -/
structure ValidCharge where
  userId : String
  planId : String
  paymentMethod : String
  email : String
  money : Money
  minor : Int64
  savePaymentMethod : Bool
deriving DecidableEq, Repr

def planDescription (plan : String) : String := "Payment for plan: " ++ plan

def ValidCharge.description (charge : ValidCharge) : String := planDescription charge.planId

namespace ChargeLimits

def unsupported (limits : ChargeLimits) (currency : String) : Refusal :=
  .unsupportedCurrency currency (", ".intercalate (limits.currencies.map (·.code)))

def currency (limits : ChargeLimits) (text : String) : Except Refusal Currency :=
  match Currency.ofText text with
  | .error (.unsupportedCurrency code _) => .error (limits.unsupported code)
  | .error refusal => .error refusal
  | .ok currency =>
    if limits.currencies.contains currency then .ok currency
    else .error (limits.unsupported currency.code)

def required (text : String) (refusal : Refusal) : Except Refusal String :=
  match Text.nonBlank? text with
  | some trimmed => .ok trimmed
  | none => .error refusal

def validate (limits : ChargeLimits) (request : ChargeRequest) : Except Refusal ValidCharge := do
  if request.amount.le .zero then throw .invalidAmount
  if limits.maxAmount.lt request.amount then throw (.amountTooLarge limits.maxAmount)
  let currency ← limits.currency request.currency
  let paymentMethod ← required request.paymentMethod .missingPaymentMethod
  let userId ← required request.userId .missingUser
  let planId ← required request.planId .missingPlan
  let minor ← currency.toMinor request.amount
  return { userId, planId, paymentMethod, minor
           email := Text.trim request.email
           money := ⟨request.amount, currency⟩
           savePaymentMethod := request.savePaymentMethod }

end ChargeLimits

end Payments
