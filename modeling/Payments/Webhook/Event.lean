import Payments.Json.Record
import Payments.Payment.Record
import Payments.Service.Error
import Payments.Webhook.Signature

/-!
Events that the gateway delivers. The envelope of an event is read strictly; the object inside may
have any shape, and an event whose object names no payment carries no change.
-/

namespace Payments.Webhook

inductive EventKind
  | succeeded
  | paymentFailed
  | canceled
  | processing
  | requiresAction
  | amountCapturable
  | chargeRefunded
deriving DecidableEq, Repr

namespace EventKind

def all : List EventKind :=
  [.succeeded, .paymentFailed, .canceled, .processing, .requiresAction, .amountCapturable,
   .chargeRefunded]

def name : EventKind → String
  | .succeeded => "payment_intent.succeeded"
  | .paymentFailed => "payment_intent.payment_failed"
  | .canceled => "payment_intent.canceled"
  | .processing => "payment_intent.processing"
  | .requiresAction => "payment_intent.requires_action"
  | .amountCapturable => "payment_intent.amount_capturable_updated"
  | .chargeRefunded => "charge.refunded"

def ofName? (name : String) : Option EventKind := all.find? (·.name = name)

def target : EventKind → Status
  | .succeeded => .succeeded
  | .paymentFailed => .failed
  | .canceled => .canceled
  | .processing => .processing
  | .requiresAction => .requiresAction
  | .amountCapturable => .requiresCapture
  | .chargeRefunded => .refunded

end EventKind

structure StatusChange where
  reference : Reference
  update : StatusUpdate
deriving DecidableEq, Repr

structure Event where
  id : EventId
  type : String
  change : Option StatusChange
deriving DecidableEq, Repr

/-- The identifier of an expandable field: the text itself, or the `id` of the object there. -/
def expandableId? : Json → Option String
  | .str id => some id
  | .obj members => ((Json.obj members).get? "id").bind Json.str?
  | _ => none

def textField? (object : Json) (name : String) : Option String := (object.get? name).bind Json.str?

/-- The reference and the receipt, which an event about a charge and an event about a payment keep
in different places. -/
def subject? (kind : EventKind) (object : Json) : Option String × Option String :=
  match kind with
  | .chargeRefunded =>
    ((object.get? "payment_intent").bind expandableId?, textField? object "receipt_url")
  | _ => (textField? object "id", (object.get? "latest_charge").bind (textField? · "receipt_url"))

def change? (kind : EventKind) (object : Json) : Option StatusChange := do
  let (reference, receiptUrl) := subject? kind object
  let reference ← (Reference.ofText (← reference)).toOption
  return {
    reference
    update :=
      { status := kind.target
        receiptUrl
        customerId := (object.get? "customer").bind expandableId? } }

structure Envelope where
  id : String
  type : String
  object : Json

namespace Envelope

structure Draft where
  id : Option String := none
  type : Option String := none
  object : Option Json := none

def Draft.finish? (draft : Draft) : Option Envelope := do
  return ⟨← draft.id, ← draft.type, ← draft.object⟩

open Json in
def dataReader : Reader Json :=
  Reader.record [ .of "object" Reader.value fun x _ => some x ] none fun draft => draft

open Json in
def reader : Reader Envelope :=
  Reader.record
    [ .of "id" Reader.string fun x draft => { draft with id := some x }
    , .of "type" Reader.string fun x draft => { draft with type := some x }
    , .defaulted "created" (Reader.int (-2 ^ 63) (2 ^ 63 - 1)) fun _ draft => draft
    , .defaulted "livemode" Reader.bool fun _ draft => draft
    , .of "data" dataReader fun x draft => { draft with object := some x } ]
    {} Draft.finish?

def event (envelope : Envelope) : Except Refusal Event := do
  let id ← EventId.ofText envelope.id
  return {
    id
    type := envelope.type
    change := (EventKind.ofName? envelope.type).bind (change? · envelope.object) }

end Envelope

def faultReason : Json.Fault → String
  | .malformed => "the payload is not JSON"
  | .mismatch => "the payload is not an event"

/-- What deliveries are signed with, and how far their times may be off, in seconds. -/
structure Endpoint where
  secret : String
  tolerance : Int64

/-- The event of a delivery, once its signature is verified at the time `now`. -/
def decode (endpoint : Endpoint) (payload : List UInt8) (header : Option String) (now : Int64) :
    Except DeliveryError Event :=
  match header with
  | none => .error (.signature SignatureFault.missing.message)
  | some header =>
    match verify payload header endpoint.secret endpoint.tolerance now with
    | .error fault => .error (.signature fault.message)
    | .ok () =>
      match Json.Reader.parse Envelope.reader payload with
      | .error fault => .error (.payload (faultReason fault))
      | .ok envelope =>
        match envelope.event with
        | .error refusal => .error (.payload refusal.message)
        | .ok event => .ok event

end Payments.Webhook
