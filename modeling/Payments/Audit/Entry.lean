import Payments.Lifecycle

/-!
The audit trail: one entry for every change of a payment, with who caused it and from where.
-/

namespace Payments

inductive Actor
  | system
  | user (id : String)
  | webhook (source : String)
deriving DecidableEq, Repr

def Actor.text : Actor → String
  | .system => "system"
  | .user id => "user:" ++ id
  | .webhook source => "webhook:" ++ source

def Actor.stripe : Actor := .webhook "stripe"

structure Origin where
  actor : Actor
  sourceIp : Option String := none
deriving DecidableEq, Repr

structure AuditEntry where
  id : Uuid
  reference : String
  eventType : EventType
  previousStatus : Option Status
  newStatus : Status
  actor : String
  sourceIp : Option String
  message : String
  metadata : Json
  createdAt : Instant

namespace AuditEntry

def transitionMessage (payment : Payment) (eventType : EventType) (previous : Option Status) :
    String :=
  "Payment " ++ eventType.name ++ ": " ++ payment.reference.text ++ " " ++
    match previous with
    | some source => source.name ++ " → " ++ payment.status.name
    | none => payment.status.name

def transitionMetadata (payment : Payment) : Json :=
  .obj
    [ ("amount", .str payment.money.amount.text)
    , ("currency", .str payment.money.currency.code)
    , ("user_id", .str payment.userId)
    , ("version", .ofInt payment.version) ]

def ofTransition (payment : Payment) (eventType : EventType) (previous : Option Payment)
    (origin : Origin) (stamp : Stamp) : AuditEntry :=
  let previousStatus := previous.map (·.status)
  { eventType, previousStatus
    id := stamp.id
    reference := payment.reference.text
    newStatus := payment.status
    actor := origin.actor.text
    sourceIp := origin.sourceIp
    message := transitionMessage payment eventType previousStatus
    metadata := transitionMetadata payment
    createdAt := stamp.now }

def json (entry : AuditEntry) : Json :=
  .obj
    [ ("id", .str entry.id.text)
    , ("externalReference", .str entry.reference)
    , ("eventType", .str entry.eventType.name)
    , ("previousStatus", .ofText? (entry.previousStatus.map Status.name))
    , ("newStatus", .str entry.newStatus.name)
    , ("actor", .str entry.actor)
    , ("sourceIp", .ofText? entry.sourceIp)
    , ("message", .str entry.message)
    , ("metadata", entry.metadata)
    , ("createdAt", .str entry.createdAt.text) ]

structure Draft where
  id : Option Uuid := none
  reference : Option String := none
  eventType : Option EventType := none
  previousStatus : Option Status := none
  newStatus : Option Status := none
  actor : Option String := none
  sourceIp : Option String := none
  message : Option String := none
  metadata : Option Json := none
  createdAt : Option Instant := none

def Draft.finish? (draft : Draft) : Option AuditEntry := do
  return {
    id := ← draft.id
    reference := ← draft.reference
    eventType := ← draft.eventType
    previousStatus := draft.previousStatus
    newStatus := ← draft.newStatus
    actor := ← draft.actor
    sourceIp := draft.sourceIp
    message := ← draft.message
    metadata := ← draft.metadata
    createdAt := ← draft.createdAt }

open Json in
def reader : Reader AuditEntry :=
  Reader.record
    [ .of "id" Reader.uuid fun x draft => { draft with id := some x }
    , .of "externalReference" Reader.string fun x draft => { draft with reference := some x }
    , .of "eventType" (Reader.word EventType.ofName?) fun x draft =>
        { draft with eventType := some x }
    , .of "previousStatus" (Reader.optional (Reader.word Status.ofName?)) fun x draft =>
        { draft with previousStatus := x }
    , .of "newStatus" (Reader.word Status.ofName?) fun x draft => { draft with newStatus := some x }
    , .of "actor" Reader.string fun x draft => { draft with actor := some x }
    , .of "sourceIp" (Reader.optional Reader.string) fun x draft => { draft with sourceIp := x }
    , .of "message" Reader.string fun x draft => { draft with message := some x }
    , .of "metadata" Reader.value fun x draft => { draft with metadata := some x }
    , .of "createdAt" Reader.instant fun x draft => { draft with createdAt := some x } ]
    {} Draft.finish?

end AuditEntry

end Payments
