import Payments.Audit.Entry

/-!
The log of audit entries, oldest first, and questions about it. A filter that is not set lets
everything through; both ends of the time window belong to it.
-/

namespace Payments

structure AuditQuery where
  reference : Option String := none
  actor : Option String := none
  start : Option Instant := none
  stop : Option Instant := none
deriving DecidableEq, Repr

namespace AuditQuery

def accepts (query : AuditQuery) (entry : AuditEntry) : Bool :=
  query.reference.all (· = entry.reference) && query.actor.all (· = entry.actor) &&
    query.start.all (·.le entry.createdAt) && query.stop.all entry.createdAt.le

open Json in
def reader : Reader AuditQuery :=
  Reader.record
    [ .of "reference" (Reader.optional Reader.string) fun x draft => { draft with reference := x }
    , .of "actor" (Reader.optional Reader.string) fun x draft => { draft with actor := x }
    , .of "from" (Reader.optional Reader.instant) fun x draft => { draft with start := x }
    , .of "to" (Reader.optional Reader.instant) fun x draft => { draft with stop := x } ]
    {} some

end AuditQuery

structure AuditLog where
  entries : List AuditEntry := []

namespace AuditLog

def append (log : AuditLog) (entry : AuditEntry) : AuditLog := ⟨log.entries ++ [entry]⟩

def query (log : AuditLog) (query : AuditQuery) : List AuditEntry :=
  log.entries.filter query.accepts

end AuditLog

end Payments
