import Payments.Charge.Limits
import Payments.Payment.Record

/-!
The flat copy of a payment that searches look at.
-/

namespace Payments

structure SearchDocument where
  id : String
  reference : String
  status : Status
  amount : Decimal
  currency : String
  userId : String
  planId : String
  createdAt : Instant
  description : String
  version : Int
deriving DecidableEq, Repr

namespace SearchDocument

def ofPayment (payment : Payment) : SearchDocument :=
  { id := payment.id.text
    reference := payment.reference.text
    status := payment.status
    amount := payment.money.amount
    currency := payment.money.currency.code
    userId := payment.userId
    planId := payment.planId
    createdAt := payment.createdAt
    description := payment.description.getD (planDescription payment.planId)
    version := payment.version }

def json (document : SearchDocument) : Json :=
  .obj
    [ ("id", .str document.id)
    , ("externalReference", .str document.reference)
    , ("status", .str document.status.name)
    , ("amount", .str document.amount.text)
    , ("currency", .str document.currency)
    , ("userId", .str document.userId)
    , ("planId", .str document.planId)
    , ("createdAt", .str document.createdAt.text)
    , ("description", .str document.description)
    , ("version", .ofInt document.version) ]

structure Draft where
  id : Option String := none
  reference : Option String := none
  status : Option Status := none
  amount : Option Decimal := none
  currency : Option String := none
  userId : Option String := none
  planId : Option String := none
  createdAt : Option Instant := none
  description : Option String := none
  version : Option Int := none

def Draft.finish? (draft : Draft) : Option SearchDocument := do
  return {
    id := ← draft.id
    reference := ← draft.reference
    status := ← draft.status
    amount := ← draft.amount
    currency := ← draft.currency
    userId := ← draft.userId
    planId := ← draft.planId
    createdAt := ← draft.createdAt
    description := ← draft.description
    version := ← draft.version }

open Json in
def reader : Reader SearchDocument :=
  Reader.record
    [ .of "id" Reader.string fun x draft => { draft with id := some x }
    , .of "externalReference" Reader.string fun x draft => { draft with reference := some x }
    , .of "status" (Reader.word Status.ofName?) fun x draft => { draft with status := some x }
    , .of "amount" Reader.decimal fun x draft => { draft with amount := some x }
    , .of "currency" Reader.string fun x draft => { draft with currency := some x }
    , .of "userId" Reader.string fun x draft => { draft with userId := some x }
    , .of "planId" Reader.string fun x draft => { draft with planId := some x }
    , .of "createdAt" Reader.instant fun x draft => { draft with createdAt := some x }
    , .of "description" Reader.string fun x draft => { draft with description := some x }
    , .of "version" (Reader.int (-2 ^ 63) (2 ^ 63 - 1)) fun x draft =>
        { draft with version := some x } ]
    {} Draft.finish?

end SearchDocument

end Payments
