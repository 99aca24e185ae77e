import Payments.Proofs.Interleaving.Conversation
import Payments.Proofs.Interleaving.Service
import Payments.Service.Charging
import Payments.Webhook.Reconcile

/-!
The operations of the service, and any number of them at work on its surroundings in memory, which
are empty at first.
-/

namespace Payments

inductive Operation
  | charge (service : PaymentService) (request : ChargeRequest) (origin : Origin)
  | confirm (service : PaymentService) (reference : Reference) (origin : Origin)
  | lookUp (reference : Reference)
  | deliver (receiver : Webhook.Receiver) (delivery : Webhook.Delivery)

inductive Answer
  /-- The operation broke down and has none. -/
  | nothing
  | receipt (result : Except PaymentError Receipt)
  | payment (result : Except PaymentError Payment)
  | outcome (result : Except DeliveryError Webhook.Outcome)

def Answer.isGiven : Answer → Bool
  | .nothing => false
  | _ => true

def Answer.ofReceipt : Option (Except PaymentError Receipt) → Answer
  | none => .nothing
  | some result => .receipt result

namespace Operation

def workflow : Operation → ServiceWorkflow Answer
  | .charge service request origin =>
    (service.process request origin).bind fun result => .done (.ofReceipt result)
  | .confirm service reference origin =>
    (service.confirm reference origin).bind fun result => .done (.ofReceipt result)
  | .lookUp reference => (Payments.lookUp reference).bind fun result => .done (.payment result)
  | .deliver receiver delivery =>
    (Webhook.handle receiver delivery).bind fun result => .done (.outcome result)

def origin : Operation → Origin
  | .charge _ _ origin | .confirm _ _ origin => origin
  | .lookUp _ => ⟨.system, none⟩
  | .deliver _ delivery => ⟨.stripe, delivery.sourceIp⟩

end Operation

namespace Interleaving

abbrev OperationPool := Pool Action Action.Reply Circumstances World Answer

def operationPool (operations : List Operation) : OperationPool :=
  { clients := operations.map Operation.workflow, moment := ⟨{}, []⟩ }

def operationsOn (world : World) (operations : List Operation) : OperationPool :=
  { clients := operations.map Operation.workflow, moment := ⟨world, []⟩ }

abbrev pastOf (world : World) (operations : List Operation) (turns : List (Nat × Circumstances)) :
    List (Step Action.Reply Circumstances World) :=
  ((operationsOn world operations).run World.perform turns).moment.past

/-- Some operations can lead to this world, some of them done and others still at it. -/
def Reachable (world : World) : Prop :=
  ∃ operations turns, ((operationPool operations).run World.perform turns).moment.state = world

def originOf (operations : List Operation) (client : Nat) : Origin :=
  (operations[client]?.map Operation.origin).getD ⟨.system, none⟩

def InTurn (turns : List (Nat × Circumstances)) : Prop :=
  turns.Pairwise fun turn later => turn.1 ≤ later.1

def cardCharge (status : Status) : Gateway.Charge where
  reference := ⟨"pi_3", by decide, by simp [Text.isBlank]⟩
  minor := 10000
  currency := "EUR"
  status := status
  clientSecret := none
  receiptUrl := none
  customerId := none
  description := none
  metadata := []

def cooperative : Circumstances where
  stamp := default
  outages := Outages.none
  gateway := fun
    | .call (.create _ _) _ => some (.ok (cardCharge .processing))
    | .call (.confirm _) _ => some (.ok (cardCharge .succeeded))
    | .sleep _ => ()
    | .clock => 0

theorem length_euro : "EUR".toList.length = 3 := by simp

theorem isUpper_euro : ∀ c ∈ "EUR".toList, c.isUpper = true := by simp

def euro : Currency := ⟨"EUR", length_euro, isUpper_euro⟩

def shop : PaymentService where
  client := { limits := ⟨.hundred, [euro]⟩ }

def shopping : ChargeRequest where
  userId := "user"
  planId := "plan"
  paymentMethod := "pm"
  email := "user@example.org"
  amount := .hundred
  currency := "EUR"

end Interleaving

end Payments
