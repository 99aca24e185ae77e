import Payments.Charge.Email
import Payments.Payment.Receipt
import Payments.Service.FanOut

/-!
The payment operations: charge, confirm, and look up. A charge is put on record once; when the
gateway repeats a charge that is on record already, the record answers. What the store holds decides
what a client is told, and the gateway only adds what the store does not keep. An operation that
breaks down at the gateway has no answer here either.
-/

namespace Payments

open ServiceWorkflow

structure PaymentService where
  client : Gateway.Client
  updateAttempts : Nat := Settlement.defaultAttempts

def receiptFor (payment : Payment) (result : Gateway.ChargeResult) : Receipt :=
  { Receipt.ofPayment payment with
    clientSecret := result.clientSecret
    metadata := result.metadata }

def newPayment (charge : ValidCharge) (result : Gateway.ChargeResult) : NewPayment :=
  { reference := result.reference
    userId := charge.userId
    planId := charge.planId
    money := result.money
    status := result.status
    receiptUrl := result.receiptUrl
    customerId := result.customerId
    description := result.description.getD charge.description }

/-- Puts a charge on record, or finds the record of an earlier answer. -/
def putOnRecord (charge : ValidCharge) (result : Gateway.ChargeResult) (origin : Origin) :
    ServiceWorkflow (Except PaymentError Receipt) := do
  match ← locally (.store (.create (newPayment charge result))) with
  | .ok payment =>
    fanOut { payment, eventType := .created, previous := none, origin }
    return .ok (receiptFor payment result)
  | .error (.duplicate _) =>
    match ← locally (.store (.find result.reference)) with
    | .ok (some payment) => return .ok (receiptFor payment result)
    | .ok none => return .error (.notFound result.reference.text)
    | .error error => return .error (.store error)
  | .error error => return .error (.store error)

def acceptable (limits : ChargeLimits) (request : ChargeRequest) : Except Refusal ValidCharge :=
  match limits.validate request with
  | .error refusal => .error refusal
  | .ok charge => if Email.isPlausible charge.email then .ok charge else .error .invalidEmail

namespace PaymentService

def charge (service : PaymentService) (request : ChargeRequest) (origin : Origin) :
    ServiceWorkflow (Option (Except PaymentError Receipt)) := do
  match acceptable service.client.limits request with
  | .error refusal => return some (.error (.refused refusal))
  | .ok charge =>
    let id ← locally .fresh
    match ← ofGateway (service.client.submit charge id) with
    | none => return none
    | some (.error error) => return some (.error (.ofClient error))
    | some (.ok result) => return some (← putOnRecord charge result origin)

def process (service : PaymentService) (request : ChargeRequest) (origin : Origin) :
    ServiceWorkflow (Option (Except PaymentError Receipt)) := do
  let result ← service.charge request origin
  match result with
  | none => return none
  | some (.ok _) => locally (.count .processed)
  | some (.error error) => locally (.count (.failed error.code))
  return result

def confirmedUpdate (result : Gateway.ChargeResult) : StatusUpdate :=
  { status := result.status
    receiptUrl := result.receiptUrl
    customerId := result.customerId }

def contention : StoreError → PaymentError
  | .conflict reference _ _ => .contended reference
  | error => .store error

/-- Moves the record to where the gateway has confirmed it to be. -/
def follow (service : PaymentService) (reference : Reference) (result : Gateway.ChargeResult)
    (origin : Origin) : ServiceWorkflow (Except PaymentError Receipt) := do
  match ← ofStore (Settlement.settle reference (confirmedUpdate result) service.updateAttempts) with
  | .error error => return .error (contention error)
  | .ok .missing => return .error (.notFound reference.text)
  | .ok (.unchanged payment) | .ok (.rejected payment _) =>
    return .ok (receiptFor payment result)
  | .ok (.applied previous payment) =>
    fanOut { payment, eventType := .updated, previous, origin }
    return .ok (receiptFor payment result)

def confirm (service : PaymentService) (reference : Reference) (origin : Origin) :
    ServiceWorkflow (Option (Except PaymentError Receipt)) := do
  match ← locally (.store (.find reference)) with
  | .error error => return some (.error (.store error))
  | .ok none => return some (.error (.notFound reference.text))
  | .ok (some _) =>
    match ← ofGateway (service.client.confirm reference) with
    | none => return none
    | some (.error error) => return some (.error (.ofClient error))
    | some (.ok result) => return some (← service.follow reference result origin)

end PaymentService

/-- Reads through the cache; a cache that fails is passed by. -/
def lookUp (reference : Reference) : ServiceWorkflow (Except PaymentError Payment) := do
  match ← locally (.cached reference) with
  | .ok (some payment) => return .ok payment
  | .ok none | .error _ =>
    match ← locally (.store (.find reference)) with
    | .error error => return .error (.store error)
    | .ok none => return .error (.notFound reference.text)
    | .ok (some payment) =>
      discard (locally (.fill payment))
      return .ok payment

def paymentsOf (userId : String) (page : PageRequest) :
    ServiceWorkflow (Except PaymentError (List Payment)) := do
  match ← locally (.store (.ofUser userId page)) with
  | .ok payments => return .ok payments
  | .error error => return .error (.store error)

end Payments
