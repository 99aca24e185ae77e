import Payments.Gateway.Retry
import Payments.Stripe.Failure

/-!
The gateway calls as exchanges with Stripe. A charge is one request; a confirmation looks the intent
up and confirms it only while it still asks for that.
-/

namespace Payments.Stripe

structure Request where
  method : String
  path : String
  parameters : List (String × String)
  idempotencyKey : Option String
deriving DecidableEq, Repr

abbrev Answer : Request → Type := fun _ => Except ExchangeFault Reply

abbrev Exchange := Workflow Request Answer

def expandCharge : String × String := ("expand[0]", "latest_charge")

def createRequest (order : Gateway.Order) (currency key : String) : Request :=
  { method := "POST"
    path := "/v1/payment_intents"
    parameters :=
      [ ("amount", toString order.minor.toInt), ("currency", currency), ("confirm", "true")
      , ("description", order.description), expandCharge ] ++
      (order.metadata.map fun (name, value) => ("metadata[" ++ name ++ "]", value)) ++
      [ ("payment_method", order.paymentMethod), ("payment_method_types[0]", "card")
      , ("receipt_email", order.email) ] ++
      (if order.savePaymentMethod then [("setup_future_usage", "off_session")] else [])
    idempotencyKey := some key }

def retrieveRequest (id : String) : Request :=
  { method := "GET"
    path := "/v1/payment_intents/" ++ id
    parameters := [expandCharge]
    idempotencyKey := none }

def confirmationKey (id : String) : String := "confirm_" ++ id

def confirmRequest (id : String) : Request :=
  { method := "POST"
    path := "/v1/payment_intents/" ++ id ++ "/confirm"
    parameters := []
    idempotencyKey := some (confirmationKey id) }

def invalidRequest (reason : String) : Gateway.Failure := ⟨.invalidRequest, reason⟩

def received (answer : Except ExchangeFault Reply) : Except Gateway.Failure Intent :=
  (answer.bind Reply.intent).mapError ExchangeFault.classify

def create (order : Gateway.Order) (key : String) :
    Exchange (Except Gateway.Failure Gateway.Charge) :=
  if paymentMethodId.accepts order.paymentMethod then
    match currencyWord order.currency with
    | .error failure => .done (.error failure)
    | .ok currency =>
      .ask (createRequest order currency key) fun answer =>
        .done ((received answer).bind Intent.charge)
  else
    .done (.error (invalidRequest
      ("invalid payment method reference: " ++ paymentMethodId.complaint)))

def confirm (reference : Reference) : Exchange (Except Gateway.Failure Gateway.Charge) :=
  if intentId.accepts reference.text then
    .ask (retrieveRequest reference.text) fun answer =>
      match received answer with
      | .error failure => .done (.error failure)
      | .ok intent =>
        if intent.status = .requiresConfirmation then
          .ask (confirmRequest intent.id) fun answer =>
            .done ((received answer).bind Intent.charge)
        else .done intent.charge
  else .done (.error (invalidRequest ("invalid PaymentIntent id: " ++ intentId.complaint)))

def call : Gateway.Call → Exchange (Except Gateway.Failure Gateway.Charge)
  | .create order key => create order key
  | .confirm reference => confirm reference

def run {α σ : Type} (network : Request → σ → Except ExchangeFault Reply × σ)
    (exchange : Exchange α) (state : σ) : α × σ :=
  exchange.run (fun request => network request) state

end Payments.Stripe
