import Payments.Service.Action

/-!
What happens after a commit: the cache, the audit log, the search index and the bus hear of it, in
this order. Each is told whatever the others answered, and a failure is only counted.
-/

namespace Payments

open ServiceWorkflow

def countFailure (sink : Sink) : Except SinkError Unit → ServiceWorkflow Unit
  | .ok _ => .done ()
  | .error _ => locally (.count (.sinkFailure sink.name))

def fanOut (commit : Commit) : ServiceWorkflow Unit := do
  let cache ← locally (.evict commit.payment.reference commit.payment.version)
  let audit ← locally (.append commit)
  let search ← locally (.index commit.document)
  let bus ← locally (.publish commit.event)
  countFailure .cache cache
  countFailure .audit audit
  countFailure .search search
  countFailure .bus bus

end Payments
