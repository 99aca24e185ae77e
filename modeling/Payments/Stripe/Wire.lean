import Payments.Gateway.Client
import Payments.Stripe.Gateway

/-!
Operations at the gateway as they show on the wire. Each call is carried out request by request for as
long as its time lasts; one whose time runs out is dropped where it stands, and nobody knows whether
the request under way has arrived.
-/

namespace Payments.Stripe

inductive WireAction
  | allow (span : Duration)
  | send (request : Request)
  | sleep (span : Duration)
  | clock
deriving DecidableEq, Repr

namespace WireAction

abbrev Reply : WireAction → Type
  | .allow _ => Unit
  | .send request => Option (Answer request)
  | .sleep _ => Unit
  | .clock => Duration

end WireAction

abbrev WireWorkflow := Workflow WireAction WireAction.Reply

/-- An exchange in limited time, which comes to nothing if it is dropped. -/
def inTime {α : Type} : Exchange α → WireWorkflow (Option α)
  | .done result => .done (some result)
  | .ask request next => .ask (.send request) fun
    | some answer => inTime (next answer)
    | none => .done none

def carryOut : (action : Gateway.GatewayAction) → WireWorkflow action.Reply
  | .call call span => .ask (.allow span) fun _ => inTime (Stripe.call call)
  | .sleep span => .ask (.sleep span) .done
  | .clock => .ask .clock .done

def onWire {α : Type} (workflow : Gateway.GatewayWorkflow α) : WireWorkflow α :=
  workflow.interpret carryOut

end Payments.Stripe
