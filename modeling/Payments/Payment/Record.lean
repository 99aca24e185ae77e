import Payments.Money
import Payments.Reference
import Payments.Status
import Payments.Uuid

/-!
A payment on record. Every change after the first version is a status update: it counts the version
up by one, and a text it does not bring stays as it was.
-/

namespace Payments

structure Payment where
  id : Uuid
  reference : Reference
  userId : String
  planId : String
  money : Money
  status : Status
  receiptUrl : Option String
  customerId : Option String
  description : Option String
  createdAt : Instant
  updatedAt : Instant
  version : Int
deriving DecidableEq, Repr

structure Stamp where
  id : Uuid
  now : Instant
deriving DecidableEq, Repr, Inhabited

structure NewPayment where
  reference : Reference
  userId : String
  planId : String
  money : Money
  status : Status
  receiptUrl : Option String
  customerId : Option String
  description : Option String
deriving DecidableEq, Repr

structure StatusUpdate where
  status : Status
  receiptUrl : Option String := none
  customerId : Option String := none
  description : Option String := none
deriving DecidableEq, Repr

def NewPayment.record (payment : NewPayment) (stamp : Stamp) : Payment :=
  { id := stamp.id
    reference := payment.reference
    userId := payment.userId
    planId := payment.planId
    money := payment.money
    status := payment.status
    receiptUrl := payment.receiptUrl
    customerId := payment.customerId
    description := payment.description
    createdAt := stamp.now
    updatedAt := stamp.now
    version := 1 }

namespace Payment

def apply (payment : Payment) (update : StatusUpdate) (now : Instant) : Payment :=
  { payment with
    status := update.status
    receiptUrl := update.receiptUrl <|> payment.receiptUrl
    customerId := update.customerId <|> payment.customerId
    description := update.description <|> payment.description
    updatedAt := now
    version := payment.version + 1 }

def json (payment : Payment) : Json :=
  .obj
    [ ("id", .str payment.id.text)
    , ("external_reference", .str payment.reference.text)
    , ("user_id", .str payment.userId)
    , ("plan_id", .str payment.planId)
    , ("money", payment.money.json)
    , ("status", .str payment.status.name)
    , ("receipt_url", .ofText? payment.receiptUrl)
    , ("customer_id", .ofText? payment.customerId)
    , ("description", .ofText? payment.description)
    , ("created_at", .str payment.createdAt.text)
    , ("updated_at", .str payment.updatedAt.text)
    , ("version", .ofInt payment.version) ]

end Payment

end Payments
