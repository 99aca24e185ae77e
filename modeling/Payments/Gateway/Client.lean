import Payments.Charge.Limits
import Payments.Gateway.Retry

/-!
Charges through the gateway. One idempotency key covers every attempt of a charge, so that trying
again cannot charge twice.
-/

namespace Payments.Gateway

structure Client where
  limits : ChargeLimits
  chargePolicy : RetryPolicy := .charge
  confirmPolicy : RetryPolicy := .confirmation

def orderOf (charge : ValidCharge) : Order :=
  { minor := charge.minor
    currency := charge.money.currency
    paymentMethod := charge.paymentMethod
    email := charge.email
    description := charge.description
    metadata := [("user_id", charge.userId), ("plan_id", charge.planId)]
    savePaymentMethod := charge.savePaymentMethod }

def idempotencyKey (id : Uuid) : String := "charge_" ++ id.text

/-- A charge whose currency is unusable counts as a terminal failure. -/
def withMoney (answer : Except ClientError Charge) : Except ClientError ChargeResult :=
  answer.bind fun charge => charge.result.mapError .terminal

namespace Client

def submit (client : Client) (charge : ValidCharge) (id : Uuid) :
    GatewayWorkflow (Option (Except ClientError ChargeResult)) :=
  (Retry.run client.chargePolicy (.create (orderOf charge) (idempotencyKey id))).bind fun ending =>
    .done (ending.map withMoney)

def confirm (client : Client) (reference : Reference) :
    GatewayWorkflow (Option (Except ClientError ChargeResult)) :=
  (Retry.run client.confirmPolicy (.confirm reference)).bind fun ending =>
    .done (ending.map withMoney)

def create (client : Client) (request : ChargeRequest) (id : Uuid) :
    GatewayWorkflow (Option (Except ClientError ChargeResult)) :=
  match client.limits.validate request with
  | .error refusal => .done (some (.error (.refused refusal)))
  | .ok charge => client.submit charge id

end Client

end Payments.Gateway
