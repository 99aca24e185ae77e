import Payments.Audit.Log
import Payments.Gateway.Client
import Payments.Metrics
import Payments.Search.Index
import Payments.Service.Error
import Payments.Store.Settle

/-!
What the service asks of its surroundings: the store, the gateway, the sinks and their read sides,
the counters, and the clock.
-/

namespace Payments

structure Commit where
  payment : Payment
  eventType : EventType
  previous : Option Payment
  origin : Origin

namespace Commit

def event (commit : Commit) : LifecycleEvent :=
  .ofPayment commit.payment commit.eventType commit.previous

def document (commit : Commit) : SearchDocument := .ofPayment commit.payment

def auditEntry (commit : Commit) (stamp : Stamp) : AuditEntry :=
  .ofTransition commit.payment commit.eventType commit.previous commit.origin stamp

end Commit

inductive LocalAction
  | store (action : StoreAction)
  | fresh
  | time
  | cached (reference : Reference)
  | fill (payment : Payment)
  | evict (reference : Reference) (version : Int)
  | append (commit : Commit)
  | index (document : SearchDocument)
  | publish (event : LifecycleEvent)
  | count (counter : Counter)
  | search (query : SearchQuery) (page : PageRequest)
  | statusCount
  | auditTrail (query : AuditQuery)
  | exposition

namespace LocalAction

abbrev Reply : LocalAction → Type
  | .store action => action.Reply
  | .fresh => Uuid
  | .time => Int64
  | .cached _ => Except SinkError (Option Payment)
  | .fill _ | .evict _ _ | .append _ | .index _ | .publish _ => Except SinkError Unit
  | .count _ => Unit
  | .search _ _ => Except SinkError SearchPage
  | .statusCount => Except SinkError (Status → Nat)
  | .auditTrail _ => Except SinkError (List AuditEntry)
  | .exposition => String

end LocalAction

inductive Action
  | gateway (action : Gateway.GatewayAction)
  | here (action : LocalAction)

namespace Action

abbrev Reply : Action → Type
  | .gateway action => action.Reply
  | .here action => action.Reply

end Action

abbrev ServiceWorkflow := Workflow Action Action.Reply

namespace ServiceWorkflow

def locally (action : LocalAction) : ServiceWorkflow action.Reply :=
  .ask (.here action) .done

def ofStore {α : Type} (workflow : StoreWorkflow α) : ServiceWorkflow α :=
  workflow.interpret fun action => locally (.store action)

def ofGateway {α : Type} (workflow : Gateway.GatewayWorkflow α) : ServiceWorkflow α :=
  workflow.interpret fun action => .ask (.gateway action) .done

end ServiceWorkflow

end Payments
