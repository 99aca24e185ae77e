import Payments.Cache
import Payments.Service.Action

/-!
The surroundings of the service in memory: a store, a cache, an audit log, a search index, the
events published so far, and the counters. A sink may be out of order; it then answers with its
error and changes nothing.
-/

namespace Payments

structure World where
  store : Store := {}
  cache : Cache := {}
  audit : AuditLog := {}
  index : SearchIndex := {}
  published : List LifecycleEvent := []
  metrics : Metrics := {}

abbrev Outages := Sink → Option SinkError

namespace Outages

def none : Outages := fun _ => .none

/-- What a sink answers and does when it is in order, or its error. -/
def guard {α : Type} (outages : Outages) (sink : Sink) (world : World) (result : α)
    (after : World) : Except SinkError α × World :=
  match outages sink with
  | some error => (.error error, world)
  | Option.none => (.ok result, after)

end Outages

namespace World

def act (outages : Outages) (stamp : Stamp) (action : LocalAction) (world : World) :
    action.Reply × World :=
  match action with
  | .store action =>
    let (reply, store) := world.store.act stamp action
    (reply, { world with store })
  | .fresh => (stamp.id, world)
  | .time => (Int64.ofInt stamp.now.seconds, world)
  | .cached reference => outages.guard .cache world (world.cache.get? reference) world
  | .fill payment =>
    outages.guard .cache world () { world with cache := world.cache.put payment }
  | .evict reference version =>
    outages.guard .cache world () { world with cache := world.cache.evict reference version }
  | .append commit =>
    outages.guard .audit world ()
      { world with audit := world.audit.append (commit.auditEntry stamp) }
  | .index document =>
    outages.guard .search world () { world with index := world.index.upsert document }
  | .publish event =>
    outages.guard .bus world () { world with published := world.published ++ [event] }
  | .count counter => ((), { world with metrics := world.metrics.count counter })
  | .search query page => outages.guard .search world (world.index.search query page) world
  | .statusCount => outages.guard .search world world.index.count world
  | .auditTrail query => outages.guard .audit world (world.audit.query query) world
  | .exposition => (world.metrics.text, world)

end World

end Payments
