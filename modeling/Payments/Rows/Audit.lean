import Payments.Audit.Entry
import Payments.Sink
import Payments.Store.Basic

/-!
Audit entries as rows of a database table.
-/

namespace Payments

structure AuditRow where
  id : Uuid
  reference : String
  eventType : String
  previousStatus : Option String
  newStatus : String
  actor : String
  sourceIp : Option String
  message : String
  metadata : Json
  createdAt : Instant

namespace AuditRow

def ofEntry (entry : AuditEntry) : AuditRow where
  id := entry.id
  reference := entry.reference
  eventType := entry.eventType.name
  previousStatus := entry.previousStatus.map Status.name
  newStatus := entry.newStatus.name
  actor := entry.actor
  sourceIp := entry.sourceIp
  message := entry.message
  metadata := entry.metadata
  createdAt := entry.createdAt

def readStatus (text : String) : Except SinkError Status :=
  (Status.ofStored text).mapError fun error => .corrupt error.message

def readEventType (name : String) : Except SinkError EventType :=
  match EventType.ofName? name with
  | some eventType => .ok eventType
  | none => .error (.corrupt (EventType.unknownMessage name))

def entry (row : AuditRow) : Except SinkError AuditEntry := do
  let eventType ← readEventType row.eventType
  let previousStatus ← row.previousStatus.mapM readStatus
  let newStatus ← readStatus row.newStatus
  return {
    eventType, previousStatus, newStatus
    id := row.id
    reference := row.reference
    actor := row.actor
    sourceIp := row.sourceIp
    message := row.message
    metadata := row.metadata
    createdAt := row.createdAt }

end AuditRow

end Payments
