import Payments.Decimal.Text
import Payments.Text.Quoted

/-!
Why input is turned down before the gateway is called. Each cause has a code for clients and a
message for readers.
-/

namespace Payments

inductive Refusal
  | invalidAmount
  | amountTooLarge (ceiling : Decimal)
  | amountNotRepresentable (amount : Decimal) (currency : String)
  | missingCurrency
  | unsupportedCurrency (currency supported : String)
  | missingPaymentMethod
  | missingUser
  | missingPlan
  | invalidEmail
  | invalidReference (reference : String)
deriving DecidableEq, Repr

namespace Refusal

def code : Refusal → String
  | .invalidAmount => "invalid_amount"
  | .amountTooLarge _ | .amountNotRepresentable _ _ => "amount_too_large"
  | .missingCurrency => "missing_currency"
  | .unsupportedCurrency _ _ => "unsupported_currency"
  | .missingPaymentMethod => "missing_payment_method"
  | .missingUser => "missing_user_id"
  | .missingPlan => "missing_plan_id"
  | .invalidEmail => "invalid_email"
  | .invalidReference _ => "invalid_payment_intent"

def message : Refusal → String
  | .invalidAmount => "invalid payment amount"
  | .amountTooLarge ceiling =>
    "payment amount exceeds maximum allowed (" ++ ceiling.text ++ ")"
  | .amountNotRepresentable amount currency =>
    "amount " ++ amount.text ++ " cannot be expressed in the smallest unit of " ++ currency
  | .missingCurrency => "currency is required"
  | .unsupportedCurrency currency supported =>
    "currency " ++ currency ++ " is not supported. Supported currencies: " ++ supported
  | .missingPaymentMethod => "payment method reference is required"
  | .missingUser => "user id is required"
  | .missingPlan => "plan id is required"
  | .invalidEmail => "a valid email is required"
  | .invalidReference reference => "invalid external reference: " ++ Text.quoted reference

end Refusal

end Payments
