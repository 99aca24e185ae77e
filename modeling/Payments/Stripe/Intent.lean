import Payments.Gateway.Charge
import Payments.Stripe.Object.Intent

/-!
Payment intents as Stripe reports them, read from JSON, and the charges they stand for. A related
object is reported by its identifier alone or in full.
-/

namespace Payments.Stripe

def int64? : Json → Option Int64
  | .num (.int n) => some (Int64.ofInt n)
  | _ => none

def statusOf? (value : Json) : Option Status := (Shape.wordOf? value).bind intentStatus?

def texts? : Json → Option (List (String × String))
  | .obj members => members.mapM fun (name, value) => value.str?.map (name, ·)
  | _ => none

def receipt? (charge : Json) : Option String :=
  (Shape.charge.member? "receipt_url" charge).bind Json.str?

def customerIdOf? : Json → Option String
  | .str id => some id
  | customer => (Shape.customer.member? "id" customer).bind Json.str?

structure Intent where
  id : String
  amount : Int64
  currency : String
  status : Status
  clientSecret : Option String
  receiptUrl : Option String
  customer : Option String
  description : Option String
  metadata : List (String × String)
deriving DecidableEq, Repr

namespace Intent

/-- Reads an intent; every member that is known has to have its shape, also one that is not kept. -/
def ofJson? (value : Json) : Option Intent :=
  let member := fun name => Shape.paymentIntent.member? name value
  let text := fun name => (member name).bind Json.str?
  if Shape.paymentIntent.fits value then do
    return {
      id := ← text "id"
      amount := ← (member "amount").bind int64?
      currency := ← (member "currency").bind Shape.wordOf?
      status := ← (member "status").bind statusOf?
      clientSecret := text "client_secret"
      receiptUrl := (member "latest_charge").bind receipt?
      customer := (member "customer").bind customerIdOf?
      description := text "description"
      metadata := ← (member "metadata").bind texts? }
  else none

def charge (intent : Intent) : Except Gateway.Failure Gateway.Charge :=
  match Reference.ofText intent.id with
  | .error refusal => .error ⟨.api, "unusable PaymentIntent id: " ++ refusal.message⟩
  | .ok reference =>
    .ok
      { reference
        minor := intent.amount
        currency := upperCode intent.currency
        status := intent.status
        clientSecret := intent.clientSecret
        receiptUrl := intent.receiptUrl
        customerId := intent.customer
        description := intent.description
        metadata := intent.metadata }

end Intent

end Payments.Stripe
