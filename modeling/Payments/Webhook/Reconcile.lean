import Payments.Service.FanOut
import Payments.Webhook.Event

/-!
Deliveries of gateway events. A delivery moves a payment or does nothing: only a bad signature, a
payload that is no event, and a store that does not settle are errors, and everything else is
acknowledged so that the gateway stops repeating it.
-/

namespace Payments.Webhook

open ServiceWorkflow

inductive Outcome
  | applied
  | unchanged
  | rejected
  | unknownReference
  | ignored
deriving DecidableEq, Repr

def Outcome.name : Outcome → String
  | .applied => "applied"
  | .unchanged => "unchanged"
  | .rejected => "rejected"
  | .unknownReference => "unknown_reference"
  | .ignored => "ignored"

def label : Except DeliveryError Outcome → String
  | .ok outcome => outcome.name
  | .error (.signature _) => "invalid_signature"
  | .error (.payload _) => "malformed"
  | .error (.store _) | .error (.contended _) => "failed"

structure Receiver where
  endpoint : Endpoint
  attempts : Nat := Settlement.defaultAttempts

structure Delivery where
  payload : List UInt8
  signature : Option String
  sourceIp : Option String

def contention : StoreError → DeliveryError
  | .conflict reference _ _ => .contended reference
  | error => .store error

def applyChange (receiver : Receiver) (change : StatusChange) (sourceIp : Option String) :
    ServiceWorkflow (Except DeliveryError Outcome) := do
  match ← ofStore (Settlement.settle change.reference change.update receiver.attempts) with
  | .error error => return .error (contention error)
  | .ok .missing => return .ok .unknownReference
  | .ok (.unchanged _) => return .ok .unchanged
  | .ok (.rejected _ _) => return .ok .rejected
  | .ok (.applied previous payment) =>
    fanOut { payment, eventType := .updated, previous, origin := ⟨.stripe, sourceIp⟩ }
    return .ok .applied

def reconcile (receiver : Receiver) (delivery : Delivery) :
    ServiceWorkflow (Except DeliveryError Outcome) := do
  let now ← locally .time
  match decode receiver.endpoint delivery.payload delivery.signature now with
  | .error error => return .error error
  | .ok event =>
    match event.change with
    | none => return .ok .ignored
    | some change => applyChange receiver change delivery.sourceIp

def handle (receiver : Receiver) (delivery : Delivery) :
    ServiceWorkflow (Except DeliveryError Outcome) := do
  let result ← reconcile receiver delivery
  locally (.count (.delivery (label result)))
  return result

end Payments.Webhook
