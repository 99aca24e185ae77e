import Payments.Payment.Record

/-!
What is told to the outside after a payment was created or updated.
-/

namespace Payments

inductive EventType
  | created
  | updated
deriving DecidableEq, Repr

namespace EventType

def name : EventType → String
  | .created => "PAYMENT_CREATED"
  | .updated => "PAYMENT_UPDATED"

def ofName? (name : String) : Option EventType :=
  [created, updated].find? fun event => event.name = name

def unknownMessage (name : String) : String := "unknown lifecycle event type: " ++ name

end EventType

structure LifecycleEvent where
  eventType : EventType
  reference : String
  userId : String
  money : Money
  status : Status
  previousStatus : Option Status
  occurredAt : Instant
deriving DecidableEq, Repr

namespace LifecycleEvent

def ofPayment (payment : Payment) (eventType : EventType) (previous : Option Payment) :
    LifecycleEvent :=
  { eventType
    reference := payment.reference.text
    userId := payment.userId
    money := payment.money
    status := payment.status
    previousStatus := previous.map (·.status)
    occurredAt := payment.updatedAt }

def json (event : LifecycleEvent) : Json :=
  .obj
    [ ("eventType", .str event.eventType.name)
    , ("externalReference", .str event.reference)
    , ("userId", .str event.userId)
    , ("amount", .str event.money.amount.text)
    , ("currency", .str event.money.currency.code)
    , ("status", .str event.status.name)
    , ("previousStatus", .ofText? (event.previousStatus.map Status.name))
    , ("occurredAt", .str event.occurredAt.text) ]

end LifecycleEvent

end Payments
