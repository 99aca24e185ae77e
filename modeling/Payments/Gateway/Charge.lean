import Payments.Gateway.Failure
import Payments.Payment.Record

/-!
What is sent to the gateway and what it reports back, with amounts in smallest units, and the charge
as the rest of the service sees it, with a decimal amount.
-/

namespace Payments.Gateway

structure Order where
  minor : Int64
  currency : Currency
  paymentMethod : String
  email : String
  description : String
  metadata : List (String × String)
  savePaymentMethod : Bool
deriving DecidableEq, Repr

structure Charge where
  reference : Reference
  minor : Int64
  currency : String
  status : Status
  clientSecret : Option String
  receiptUrl : Option String
  customerId : Option String
  description : Option String
  metadata : List (String × String)
deriving DecidableEq, Repr

structure ChargeResult where
  reference : Reference
  money : Money
  status : Status
  clientSecret : Option String
  receiptUrl : Option String
  customerId : Option String
  description : Option String
  metadata : List (String × String)
deriving DecidableEq, Repr

def Charge.result (charge : Charge) : Except Failure ChargeResult :=
  match Currency.ofText charge.currency with
  | .error refusal =>
    .error ⟨.api, "gateway returned an unusable currency: " ++ refusal.message⟩
  | .ok currency =>
    .ok
      { reference := charge.reference
        money := .ofMinor charge.minor currency
        status := charge.status
        clientSecret := charge.clientSecret
        receiptUrl := charge.receiptUrl
        customerId := charge.customerId
        description := charge.description
        metadata := charge.metadata }

end Payments.Gateway
